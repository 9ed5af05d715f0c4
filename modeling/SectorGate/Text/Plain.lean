/-!
# Plain text

What remains of a text that was meant for a terminal when it is written elsewhere. The controls
are left out: single control characters other than white space, and the sequences that begin
with an escape character. These are followed to their end, also through white space, which
remains. A text without controls stays as it is (`plain_eq_self`).
-/

namespace SectorGate.Text

/-- How much of an escape sequence has been read. -/
inductive Escaped where
  /-- Nothing: the text stands outside of all sequences. -/
  | nothing
  | escape
  | intermediate
  /-- The beginning of a control sequence, which ends with its first letter or the like. -/
  | sequence
  | device
  | deviceParameters
  | deviceIntermediate
  /-- The text of a control string, which ends with the byte `0x9C`. -/
  | string
  /-- The text of an operating system command, which ends with the bell. -/
  | command
  deriving DecidableEq, Repr

def within (first last c : Char) : Bool :=
  first ≤ c && c ≤ last

/-- Whether a character that stands outside of all sequences remains. -/
def isPlain (c : Char) : Bool :=
  ['\t', '\n', '\x0c', '\r'].contains c || ' ' ≤ c && c ≠ '\x7f'

namespace Escaped

/-- What has been read of a sequence after one more character. Three control characters end it
wherever they stand, one of them to begin the next. -/
def next (e : Escaped) (c : Char) : Escaped :=
  if c = '\x18' ∨ c = '\x1a' then nothing
  else if c = '\x1b' then escape
  else
    match e with
    | nothing => nothing
    | escape =>
      if within ' ' '/' c then intermediate
      else if c = '[' then sequence
      else if c = ']' then command
      else if c = 'P' then device
      else if c = 'X' ∨ c = '^' ∨ c = '_' then string
      else if within '0' '~' c then nothing
      else escape
    | intermediate => if within '0' '~' c then nothing else intermediate
    | sequence => if within '@' '~' c then nothing else sequence
    | device =>
      if within ' ' '/' c then deviceIntermediate
      else if within '0' '?' c then deviceParameters
      else if within '@' '~' c then string
      else device
    | deviceParameters =>
      if within ' ' '/' c then deviceIntermediate
      else if within '0' ';' c then deviceParameters
      else if within '<' '~' c then string
      else deviceParameters
    | deviceIntermediate => if within '0' '~' c then string else deviceIntermediate
    | string => if (String.utf8EncodeChar c).contains 0x9c then nothing else string
    | command => if c = '\x07' then nothing else command

/-- Whether a character that is met after this much of a sequence remains. -/
def keeps (e : Escaped) (c : Char) : Bool :=
  match e with
  | nothing => isPlain c
  | escape | intermediate | sequence => ['\t', '\n', '\x0c', '\r'].contains c
  | _ => false

end Escaped

/-- What remains of a text after so much of a sequence. Behind a character that remained, the
text goes on as if outside of sequences, up to its next control. -/
def remaining (e : Escaped) (outside : Bool) : List Char → List Char
  | [] => []
  | c :: rest =>
    if outside && isPlain c then
      c :: remaining (if c.toNat < 128 then e else .nothing) true rest
    else if e.keeps c then
      c :: remaining (e.next c) true rest
    else
      remaining (e.next c) false rest

/-- A text without controls. -/
def plain (text : String) : String :=
  String.ofList (remaining .nothing false text.toList)

theorem remaining_eq_self {text : List Char} (outside : Bool) (h : ∀ c ∈ text, isPlain c) :
    remaining .nothing outside text = text := by
  induction text generalizing outside with
  | nil => rfl
  | cons c rest ih =>
    have hc : isPlain c := h c (by simp)
    have hrest : ∀ outside, remaining .nothing outside rest = rest :=
      fun outside => ih outside fun d hd => h d (by simp [hd])
    have hnext : Escaped.nothing.next c = .nothing := by
      rw [Escaped.next]
      split
      · rfl
      · split
        · rename_i hescape
          simp [hescape, isPlain] at hc
        · rfl
    cases outside <;> simp [remaining, hc, Escaped.keeps, hnext, hrest]

/-- A text without controls stays as it is. -/
theorem plain_eq_self {text : String} (h : ∀ c ∈ text.toList, isPlain c) : plain text = text := by
  rw [plain, remaining_eq_self false h, String.ofList_toList]

end SectorGate.Text
