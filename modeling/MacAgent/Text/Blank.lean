/-! # Blanks and words

A blank is a character with the Unicode property White_Space. Texts are trimmed and cut at blanks,
and split at separators. Everything here works on the characters of a text; `String` appears only
where a value is read or printed. -/

namespace MacAgent.Text

/-- The Unicode property White_Space: the 25 characters that separate words. -/
def isBlank (c : Char) : Bool :=
  (0x09 ≤ c.toNat && c.toNat ≤ 0x0D) || c.toNat == 0x20 || c.toNat == 0x85 || c.toNat == 0xA0 ||
    c.toNat == 0x1680 || (0x2000 ≤ c.toNat && c.toNat ≤ 0x200A) || c.toNat == 0x2028 ||
    c.toNat == 0x2029 || c.toNat == 0x202F || c.toNat == 0x205F || c.toNat == 0x3000

def trimStart (text : List Char) : List Char :=
  text.dropWhile isBlank

def trimEnd (text : List Char) : List Char :=
  (text.reverse.dropWhile isBlank).reverse

def trim (text : List Char) : List Char :=
  trimEnd (trimStart text)

/-- The part before the first blank, and what follows that blank. Without a blank the whole text is
the first part. -/
def cut (text : List Char) : List Char × List Char :=
  (text.takeWhile (!isBlank ·), (text.dropWhile (!isBlank ·)).drop 1)

/-- The parts between the characters that satisfy `sep`, empty ones included. There is always one
part more than there are separators. -/
def splitAtEach (sep : Char → Bool) : List Char → List (List Char)
  | [] => [[]]
  | c :: rest =>
    if sep c then [] :: splitAtEach sep rest
    else
      match splitAtEach sep rest with
      | part :: parts => (c :: part) :: parts
      | [] => [[c]]

/-- The maximal stretches of the text without a blank. -/
def words (text : List Char) : List (List Char) :=
  (splitAtEach isBlank text).filter (! ·.isEmpty)

/-- An ASCII letter as its lower-case form; other characters as they are. -/
def asciiLower (c : Char) : Char :=
  if 'A' ≤ c && c ≤ 'Z' then Char.ofNat (c.toNat + 32) else c

end MacAgent.Text
