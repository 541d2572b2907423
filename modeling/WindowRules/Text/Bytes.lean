/-!
# Text from bytes

Files and standard input hold bytes, which need not be text.  A file is read whole,
and is text or is not; the shell reads line by line, and text may come before a line
that is not.  Lines of bytes end as lines of text do.
-/

namespace WindowRules
namespace Text

/-- The text that some bytes encode, if they are UTF-8. -/
def ofBytes? (bytes : List UInt8) : Option (List Char) :=
  (String.fromUTF8? ⟨bytes.toArray⟩).map String.toList

/-- The lines of some bytes, without their ends. -/
def byteLines : List UInt8 → List (List UInt8)
  | [] => []
  | 10 :: bs => [] :: byteLines bs
  | 13 :: 10 :: bs => [] :: byteLines bs
  | b :: bs =>
    match byteLines bs with
    | [] => [[b]]
    | l :: ls => (b :: l) :: ls

/-- The lines of some bytes as text, as far as they are. -/
def linesOfBytes (bytes : List UInt8) : List (Option (List Char)) := (byteLines bytes).map ofBytes?

end Text
end WindowRules
