import WindowRules.Proofs.Text.Trimming
import WindowRules.Text.Bytes

/-!
# Words and lines that are typed

A script is bytes, its lines are cut before they are decoded, and a line gives words and a rest.
What can be in such a word or rest is what the readers of config files ask about:

* a word is not empty and has no blanks (`ne_nil_of_mem_words`, `isBlank_of_mem_words`);
* the rest of a line neither begins nor ends with a blank (`isBlank_head?_afterWords`,
  `isBlank_getLast?_afterWords`);
* both have only characters of the line (`subset_of_mem_words`, `afterWords_subset`);
* and a line has no newline (`newline_notMem_of_mem_linesOfBytes`), since no other character has the
  byte of a newline in its encoding.
-/

namespace WindowRules
namespace Text

/-! ## Words -/

variable {s w : List Char}

/-- A word of a text is a word of what follows its first character, or begins with this character
and goes on with such a word or ends. -/
theorem mem_words_cons {c : Char} {cs : List Char} (h : w ∈ words (c :: cs)) :
    w ∈ words cs ∨ isBlank c = false ∧ ∃ v, w = c :: v ∧ (v = [] ∨ v ∈ words cs) := by
  rw [words.eq_def] at h
  dsimp only at h
  split at h
  · exact .inl h
  next hc =>
  have hc := Bool.eq_false_iff.mpr hc
  split at h
  · exact .inr ⟨hc, [], List.mem_singleton.mp h, .inl rfl⟩
  next d ds =>
  split at h
  · rcases List.mem_cons.mp h with h | h
    · exact .inr ⟨hc, [], h, .inl rfl⟩
    · exact .inl h
  split at h
  · exact .inr ⟨hc, [], List.mem_singleton.mp h, .inl rfl⟩
  next v vs hwords =>
  rw [hwords]
  rcases List.mem_cons.mp h with h | h
  · exact .inr ⟨hc, v, h, .inr List.mem_cons_self⟩
  · exact .inl (List.mem_cons_of_mem v h)

theorem ne_nil_of_mem_words (h : w ∈ words s) : w ≠ [] := by
  induction s with
  | nil => exact absurd h List.not_mem_nil
  | cons c cs ih =>
    rcases mem_words_cons h with h | ⟨-, v, rfl, -⟩
    · exact ih h
    · exact List.cons_ne_nil c v

/-- **A word has no blanks.** -/
theorem isBlank_of_mem_words (h : w ∈ words s) : ∀ c ∈ w, isBlank c = false := by
  induction s generalizing w with
  | nil => exact absurd h List.not_mem_nil
  | cons c cs ih =>
    rcases mem_words_cons h with h | ⟨hc, v, rfl, rfl | hv⟩
    · exact ih h
    · exact List.forall_mem_singleton.mpr hc
    · exact List.forall_mem_cons.mpr ⟨hc, ih hv⟩

theorem subset_of_mem_words (h : w ∈ words s) : w ⊆ s := by
  induction s generalizing w with
  | nil => exact absurd h List.not_mem_nil
  | cons c cs ih =>
    rcases mem_words_cons h with h | ⟨-, v, rfl, rfl | hv⟩
    · exact List.subset_cons_of_subset c (ih h)
    · exact List.cons_subset_cons c (List.nil_subset cs)
    · exact List.cons_subset_cons c (ih hv)

/-! ## The rest of a line -/

theorem trimStart_isSuffix (s : List Char) : trimStart s <:+ s := List.dropWhile_suffix _

theorem dropWords_isSuffix (k : Nat) (s : List Char) : dropWords k s <:+ s := by
  induction k generalizing s with
  | zero => exact List.suffix_rfl
  | succ k ih => exact (ih _).trans ((trimStart_isSuffix _).trans (List.dropWhile_suffix _))

theorem afterWords_subset (s : List Char) (k : Nat) : afterWords s k ⊆ s :=
  List.Subset.trans (trimEnd_isPrefix _).subset
    ((dropWords_isSuffix k _).trans (trimStart_isSuffix s)).subset

theorem isBlank_head?_trimStart {c : Char} (h : c ∈ (trimStart s).head?) : isBlank c = false :=
  apply_head_dropWhile h

theorem isBlank_head?_dropWords {c : Char} {k : Nat} (h : c ∈ (dropWords k (trimStart s)).head?) :
    isBlank c = false := by
  induction k generalizing s with
  | zero => exact isBlank_head?_trimStart h
  | succ k ih => exact ih h

/-- **What follows the words begins with no blank.** -/
theorem isBlank_head?_afterWords {c : Char} {k : Nat} (h : c ∈ (afterWords s k).head?) :
    isBlank c = false := by
  obtain ⟨cs, hcs⟩ := List.head?_eq_some_iff.mp h
  obtain ⟨rest, hrest⟩ := trimEnd_isPrefix (dropWords k (trimStart s))
  refine isBlank_head?_dropWords (s := s) (k := k) ?_
  rw [← hrest, ← afterWords, hcs]
  exact Option.mem_some_self c

/-- **What follows the words ends with no blank.** -/
theorem isBlank_getLast?_afterWords {c : Char} {k : Nat} (h : c ∈ (afterWords s k).getLast?) :
    isBlank c = false :=
  isBlank_getLast?_trimEnd h

/-! ## Lines of bytes -/

theorem newline_notMem_of_mem_byteLines {bytes l : List UInt8} (h : l ∈ byteLines bytes) :
    10 ∉ l := by
  induction bytes using byteLines.induct generalizing l with
  | case1 => exact absurd h List.not_mem_nil
  | case2 bs ih | case3 bs ih =>
    rw [byteLines] at h
    rcases List.mem_cons.mp h with rfl | h
    · exact List.not_mem_nil
    · exact ih h
  | case4 b bs hb hend hlines ih =>
    rw [byteLines.eq_4 b bs hb hend, hlines] at h
    rw [List.mem_singleton.mp h, List.mem_singleton]
    exact fun h10 => hb h10.symm
  | case5 b bs hb hend l' ls hlines ih =>
    rw [byteLines.eq_4 b bs hb hend, hlines] at h
    rw [hlines] at ih
    rcases List.mem_cons.mp h with rfl | h
    · rw [List.mem_cons, not_or]
      exact ⟨fun h10 => hb h10.symm, ih List.mem_cons_self⟩
    · exact ih (List.mem_cons_of_mem l' h)

/-- Some bytes encode the text that they are decoded to. -/
theorem eq_flatMap_of_ofBytes?_eq_some {bytes : List UInt8} {cs : List Char}
    (h : ofBytes? bytes = some cs) : bytes = cs.flatMap String.utf8EncodeChar := by
  obtain ⟨t, ht, rfl⟩ := Option.map_eq_some_iff.mp h
  unfold String.fromUTF8? at ht
  split at ht
  · have hbytes : t.toByteArray = ⟨bytes.toArray⟩ := by rw [← Option.some.inj ht, String.fromUTF8]
    calc bytes = t.toByteArray.data.toList := by rw [hbytes]
      _ = t.toList.flatMap String.utf8EncodeChar := by
        rw [← String.utf8Encode_toList, List.utf8Encode, List.toList_data_toByteArray]
  · exact absurd ht nofun

/-- The encoding of a text is decoded to it. -/
theorem ofBytes?_flatMap_utf8EncodeChar (cs : List Char) :
    ofBytes? (cs.flatMap String.utf8EncodeChar) = some cs := by
  have hbytes : (⟨(cs.flatMap String.utf8EncodeChar).toArray⟩ : ByteArray) =
      (String.ofList cs).toByteArray := by
    rw [String.toByteArray_ofList, List.utf8Encode]
    exact ByteArray.ext List.data_toByteArray.symm
  have hdecode : String.fromUTF8? (String.ofList cs).toByteArray = some (String.ofList cs) := by
    unfold String.fromUTF8?
    split
    · rfl
    · next hinvalid => exact absurd (String.isValidUTF8 _) hinvalid
  rw [ofBytes?, hbytes, hdecode, Option.map_some, String.toList_ofList]

/-- **A line has no newline.** -/
theorem newline_notMem_of_mem_linesOfBytes {bytes : List UInt8} {line : List Char}
    (h : some line ∈ linesOfBytes bytes) : '\n' ∉ line := by
  obtain ⟨l, hl, hline⟩ := List.mem_map.mp h
  intro hnewline
  refine newline_notMem_of_mem_byteLines hl ?_
  rw [eq_flatMap_of_ofBytes?_eq_some hline]
  exact List.mem_flatMap.mpr ⟨'\n', hnewline, by decide⟩

end Text
end WindowRules
