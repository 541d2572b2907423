import WindowRules.Unicode.Script
import WindowRules.Unicode.Trait

/-!
# Where text may be divided

Three properties sort the characters by the part they play in dividing a text:
into characters as a reader sees them (`graphemeBreak?`), into words
(`wordBreak?`) and into sentences (`sentenceBreak?`).  Small classes are listed;
large ones follow from other properties.
-/

namespace WindowRules
namespace Unicode

/-- Every Hangul syllable without a final consonant. -/
def hangulOpen : CharSet :=
  .ofRanges ((List.range 399).map fun k => (0xac00 + 28 * k, 0xac00 + 28 * k))

/-- Marks and what else extends the character before it. -/
def extending : CharSet := graphemeExtend.union (category "mc")

/-- The listed classes of the division into visible characters. -/
def graphemeBreakTable : List NamedRanges := [
  ⟨["cr"], "d"⟩,
  ⟨["lf"], "a"⟩,
  ⟨["l"], "1100-115f a960-a97c"⟩,
  ⟨["v"], "1160-11a7 d7b0-d7c6"⟩,
  ⟨["t"], "11a8-11ff d7cb-d7fb"⟩,
  ⟨["prepend", "pp"], "
    600-605 6dd 70f 890-891 8e2 d4e 110bd 110cd 111c2-111c3 113d1 1193f 11941 11a3a
    11a84-11a89 11d46 11f02"⟩,
  ⟨["regionalindicator", "ri"], "1f1e6-1f1ff"⟩,
  ⟨["spacingmark", "sm"], "
    903 93b 93e-940 949-94c 94e-94f 982-983 9bf-9c0 9c7-9c8 9cb-9cc a03 a3e-a40 a83 abe-ac0
    ac9 acb-acc b02-b03 b40 b47-b48 b4b-b4c bbf bc1-bc2 bc6-bc8 bca-bcc c01-c03 c41-c44
    c82-c83 cbe cc0-cc1 cc3-cc4 cc7-cc8 cca-ccb cf3 d02-d03 d3f-d40 d46-d48 d4a-d4c d82-d83
    dd0-dd1 dd8-dde df2-df3 e33 eb3 f3e-f3f f7f 1031 103b-103c 1056-1057 1084 1715 1734 17b6
    17be-17c5 17c7-17c8 1923-1926 1929-192b 1930-1931 1933-1938 1a19-1a1a 1a55 1a57
    1a6d-1a72 1b04 1b3b 1b3d-1b41 1b43-1b44 1b82 1ba1 1ba6-1ba7 1baa 1be7 1bea-1bec 1bee
    1bf2-1bf3 1c24-1c2b 1c34-1c35 1ce1 1cf7 a823-a824 a827 a880-a881 a8b4-a8c3 a952-a953
    a983 a9b4-a9b5 a9ba-a9bb a9be-a9c0 aa2f-aa30 aa33-aa34 aa4d aaeb aaee-aaef aaf5
    abe3-abe4 abe6-abe7 abe9-abea abec 11000 11002 11082 110b0-110b2 110b7-110b8 1112c
    11145-11146 11182 111b3-111b5 111bf-111c0 111ce 1122c-1122e 11232-11233 11235
    112e0-112e2 11302-11303 1133f 11341-11344 11347-11348 1134b-1134d 11362-11363
    113b9-113ba 113ca 113cc-113cd 11435-11437 11440-11441 11445 114b1-114b2 114b9
    114bb-114bc 114be 114c1 115b0-115b1 115b8-115bb 115be 11630-11632 1163b-1163c 1163e
    116ac 116ae-116af 116b6 11726 1182c-1182e 11838 11931-11935 11937-11938 1193d 11940
    11942 119d1-119d3 119dc-119df 119e4 11a39 11a57-11a58 11a97 11c2f 11c3e 11ca9 11cb1
    11cb4 11d8a-11d8e 11d93-11d94 11d96 11ef5-11ef6 11f03 11f34-11f35 11f3e-11f3f 11f41
    1612a-1612c 16f51-16f87 16ff0-16ff1 1d166 1d16d"⟩,
  ⟨["zwj"], "200d"⟩]

/-- A class of the division into visible characters, by its name. -/
def graphemeBreak? (name : String) : Option CharSet :=
  match name with
  | "lv" => some hangulOpen
  | "lvt" => some ((CharSet.ofText "ac00-d7a3").diff hangulOpen)
  | "extend" | "ex" => some (graphemeExtend.union (trait "emojimodifier"))
  | "control" | "cn" =>
    some ((CharSet.unions [categories ["zl", "zp", "cc", "cf"],
      (category "cn").inter defaultIgnorable]).diff
      (.unions [.ofText "a d 200c-200d e0020-e007f", trait "prependedconcatenationmark"]))
  | _ => NamedRanges.find? graphemeBreakTable name

/-- The listed classes of the division into words. -/
def wordBreakTable : List NamedRanges := [
  ⟨["cr"], "d"⟩,
  ⟨["lf"], "a"⟩,
  ⟨["newline", "nl"], "b-c 85 2028-2029"⟩,
  ⟨["doublequote", "dq"], "22"⟩,
  ⟨["singlequote", "sq"], "27"⟩,
  ⟨["extendnumlet", "ex"], "5f 202f 203f-2040 2054 fe33-fe34 fe4d-fe4f ff3f"⟩,
  ⟨["format", "fo"], "
    ad 600-605 61c 6dd 70f 890-891 8e2 180e 200e-200f 202a-202e 2060-2064 2066-206f feff
    fff9-fffb 110bd 110cd 13430-1343f 1bca0-1bca3 1d173-1d17a e0001"⟩,
  ⟨["hebrewletter", "hl"], "
    5d0-5ea 5ef-5f2 fb1d fb1f-fb28 fb2a-fb36 fb38-fb3c fb3e fb40-fb41 fb43-fb44 fb46-fb4f"⟩,
  ⟨["katakana", "ka"], "
    3031-3035 309b-309c 30a0-30fa 30fc-30ff 31f0-31ff 32d0-32fe 3300-3357 ff66-ff9d
    1aff0-1aff3 1aff5-1affb 1affd-1affe 1b000 1b120-1b122 1b155 1b164-1b167"⟩,
  ⟨["midletter", "ml"], "3a b7 387 55f 5f4 2027 fe13 fe55 ff1a"⟩,
  ⟨["midnum", "mn"], "2c 3b 37e 589 60c-60d 66c 7f8 2044 fe10 fe14 fe50 fe54 ff0c ff1b"⟩,
  ⟨["midnumlet", "mb"], "2e 2018-2019 2024 fe52 ff07 ff0e"⟩,
  ⟨["numeric", "nu"], "
    30-39 660-669 66b 6f0-6f9 7c0-7c9 966-96f 9e6-9ef a66-a6f ae6-aef b66-b6f be6-bef
    c66-c6f ce6-cef d66-d6f de6-def e50-e59 ed0-ed9 f20-f29 1040-1049 1090-1099 17e0-17e9
    1810-1819 1946-194f 19d0-19d9 1a80-1a89 1a90-1a99 1b50-1b59 1bb0-1bb9 1c40-1c49
    1c50-1c59 a620-a629 a8d0-a8d9 a900-a909 a9d0-a9d9 a9f0-a9f9 aa50-aa59 abf0-abf9
    ff10-ff19 104a0-104a9 10d30-10d39 10d40-10d49 11066-1106f 110f0-110f9 11136-1113f
    111d0-111d9 112f0-112f9 11450-11459 114d0-114d9 11650-11659 116c0-116c9 116d0-116e3
    11730-11739 118e0-118e9 11950-11959 11bf0-11bf9 11c50-11c59 11d50-11d59 11da0-11da9
    11f50-11f59 16130-16139 16a60-16a69 16ac0-16ac9 16b50-16b59 16d70-16d79 1ccf0-1ccf9
    1d7ce-1d7ff 1e140-1e149 1e2f0-1e2f9 1e4f0-1e4f9 1e5f1-1e5fa 1e950-1e959 1fbf0-1fbf9"⟩,
  ⟨["regionalindicator", "ri"], "1f1e6-1f1ff"⟩,
  ⟨["wsegspace"], "20 1680 2000-2006 2008-200a 205f 3000"⟩,
  ⟨["zwj"], "200d"⟩]

/-- Scripts that are written without blanks between words. -/
def unspacedLetters : CharSet :=
  .ofText "
    e01-e3a e40-e4e e81-e82 e84 e86-e8a e8c-ea3 ea5 ea7-ebd ec0-ec4 ec6 ec8-ece edc-edf
    1000-103f 1050-108f 109a-109f 1780-17d3 17d7 17dc-17dd 1950-196d 1970-1974 1980-19ab
    19b0-19c9 19da 19de-19df 1a20-1a5e 1a60-1a7c 1aa0-1aad a9e0-a9ef a9fa-a9fe aa60-aac2
    aadb-aadf 11700-1171a 1171d-1172b 1173a-1173b 1173f-11746"

/-- Letters of words that are set apart by blanks. -/
def wordLetters : CharSet :=
  let listed (name : String) := (NamedRanges.find? wordBreakTable name).getD .empty
  (alphabetic.diff (.unions [trait "ideographic", (script? "hiragana").getD .empty,
    listed "katakana", listed "hebrewletter", unspacedLetters, extending])).union
    (.ofText "
    2c2-2c5 2d2-2d7 2de-2df 2e5-2eb 2ed 2ef-2ff 55a-55c 55e 58a 5f3 a708-a716 a720-a721
    a789-a78a ab5b")

/-- A class of the division into words, by its name. -/
def wordBreak? (name : String) : Option CharSet :=
  match name with
  | "extend" => some ((extending.union (trait "emojimodifier")).diff (.singleton '\u200d'))
  | "aletter" | "le" => some wordLetters
  | _ => NamedRanges.find? wordBreakTable name

/-- The listed classes of the division into sentences. -/
def sentenceBreakTable : List NamedRanges := [
  ⟨["cr"], "d"⟩,
  ⟨["lf"], "a"⟩,
  ⟨["sep", "se"], "85 2028-2029"⟩,
  ⟨["format", "fo"], "
    ad 600-605 61c 6dd 70f 890-891 8e2 180e 200b 200e-200f 202a-202e 2060-2064 2066-206f
    feff fff9-fffb 110bd 110cd 13430-1343f 1bca0-1bca3 1d173-1d17a e0001"⟩,
  ⟨["sp"], "9 b-c 20 a0 1680 2000-200a 202f 205f 3000"⟩,
  ⟨["numeric", "nu"], "
    30-39 660-669 66b-66c 6f0-6f9 7c0-7c9 966-96f 9e6-9ef a66-a6f ae6-aef b66-b6f be6-bef
    c66-c6f ce6-cef d66-d6f de6-def e50-e59 ed0-ed9 f20-f29 1040-1049 1090-1099 17e0-17e9
    1810-1819 1946-194f 19d0-19d9 1a80-1a89 1a90-1a99 1b50-1b59 1bb0-1bb9 1c40-1c49
    1c50-1c59 a620-a629 a8d0-a8d9 a900-a909 a9d0-a9d9 a9f0-a9f9 aa50-aa59 abf0-abf9
    ff10-ff19 104a0-104a9 10d30-10d39 10d40-10d49 11066-1106f 110f0-110f9 11136-1113f
    111d0-111d9 112f0-112f9 11450-11459 114d0-114d9 11650-11659 116c0-116c9 116d0-116e3
    11730-11739 118e0-118e9 11950-11959 11bf0-11bf9 11c50-11c59 11d50-11d59 11da0-11da9
    11f50-11f59 16130-16139 16a60-16a69 16ac0-16ac9 16b50-16b59 16d70-16d79 1ccf0-1ccf9
    1d7ce-1d7ff 1e140-1e149 1e2f0-1e2f9 1e4f0-1e4f9 1e5f1-1e5fa 1e950-1e959 1fbf0-1fbf9"⟩,
  ⟨["aterm", "at"], "2e 2024 fe52 ff0e"⟩,
  ⟨["scontinue", "sc"], "
    2c-2d 3a 55d 60c-60d 7f8 1802 1808 2013-2014 3001 fe10-fe11 fe13 fe31-fe32 fe50-fe51
    fe55 fe58 fe63 ff0c-ff0d ff1a ff64"⟩,
  ⟨["sterm", "st"], "
    21 3f 589 61d-61f 6d4 700-702 7f9 837 839 83d-83e 964-965 104a-104b 1362 1367-1368 166e
    1735-1736 1803 1809 1944-1945 1aa8-1aab 1b4e-1b4f 1b5a-1b5b 1b5e-1b5f 1b7d-1b7f
    1c3b-1c3c 1c7e-1c7f 203c-203d 2047-2049 2e2e 2e3c 2e53-2e54 3002 a4ff a60e-a60f a6f3
    a6f7 a876-a877 a8ce-a8cf a92f a9c8-a9c9 aa5d-aa5f aaf0-aaf1 abeb fe56-fe57 ff01 ff1f
    ff61 10a56-10a57 10f55-10f59 10f86-10f89 11047-11048 110be-110c1 11141-11143 111c5-111c6
    111cd 111de-111df 11238-11239 1123b-1123c 112a9 113d4-113d5 1144b-1144c 115c2-115c3
    115c9-115d7 11641-11642 1173c-1173e 11944 11946 11a42-11a43 11a9b-11a9c 11c41-11c42
    11ef7-11ef8 11f43-11f44 16a6e-16a6f 16af5 16b37-16b38 16b44 16d6e-16d6f 16e98 1bc9f
    1da88"⟩,
  ⟨["close", "cl"], "
    22 27-29 5b 5d 7b 7d ab bb f3a-f3d 169b-169c 2018-201f 2039-203a 2045-2046 207d-207e
    208d-208e 2308-230b 2329-232a 275b-2760 2768-2775 27c5-27c6 27e6-27ef 2983-2998
    29d8-29db 29fc-29fd 2e00-2e0d 2e1c-2e1d 2e20-2e29 2e42 2e55-2e5c 3008-3011 3014-301b
    301d-301f fd3e-fd3f fe17-fe18 fe35-fe44 fe47-fe48 fe59-fe5e ff08-ff09 ff3b ff3d ff5b
    ff5d ff5f-ff60 ff62-ff63 1f676-1f678"⟩]

/-- Lower-case letters that may follow a full stop inside a sentence. -/
def sentenceLower : CharSet :=
  (lowercase.diff graphemeExtend).diff (.ofText "10d0-10fa 10fd-10ff")

/-- Capital letters that may start a sentence. -/
def sentenceUpper : CharSet :=
  (uppercase.union (category "lt")).diff (.ofText "1c90-1cba 1cbd-1cbf")

/-- A class of the division into sentences, by its name. -/
def sentenceBreak? (name : String) : Option CharSet :=
  match name with
  | "lower" | "lo" => some sentenceLower
  | "upper" | "up" => some sentenceUpper
  | "extend" | "ex" => some (extending.union (.singleton '\u200d'))
  | "oletter" | "le" =>
    some ((alphabetic.union (.singleton '\u05f3')).diff
      (.unions [sentenceLower, sentenceUpper, extending]))
  | _ => NamedRanges.find? sentenceBreakTable name

end Unicode
end WindowRules
