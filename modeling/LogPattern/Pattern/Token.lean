import LogPattern.Text.Split

/-!
# Tokens

A pattern text is literal text with tokens `%\x7bNAME:field:hint\x7d` in it.  A token
goes from its opener to the next closing brace; an opener without one is literal
text.  Dividing a text loses nothing: its literals and the full texts of its
tokens are the text again.  A pattern can be registered under names of ASCII letters,
digits and underscores only, but a token may name anything.
-/

namespace LogPattern

def isNameChar (c : Char) : Bool := c.isAlphanum || c = '_'

def isPatternName (name : String) : Bool :=
  !name.toList.isEmpty && name.toList.all isNameChar

/-- The reference of a token, with the place where the token stands. -/
structure Token where
  name : String
  /-- The field that keeps what the token matched; an empty one is no field. -/
  field : Option String
  /-- A note on the type of the field; an empty one is none. -/
  hint : Option String
  offset : Nat
  raw : String
deriving DecidableEq, Repr

inductive Segment where
  | literal (text : String)
  | token (token : Token)
deriving DecidableEq, Repr

def byteCount (text : List Char) : Nat := text.foldl (fun count c => count + c.utf8Size) 0

def nonEmptyPart (part : List Char) : Option String :=
  if part.isEmpty then none else some (String.ofList part)

namespace Token

def opener : List Char := ['%', '\x7b']

def ofBody (offset : Nat) (body : List Char) : Token :=
  let raw := String.ofList (opener ++ body ++ ['\x7d'])
  match splitAtMark [':'] body with
  | none => ⟨String.ofList body, none, none, offset, raw⟩
  | some (name, rest) =>
      match splitAtMark [':'] rest with
      | none => ⟨String.ofList name, nonEmptyPart rest, none, offset, raw⟩
      | some (field, hint) =>
          ⟨String.ofList name, nonEmptyPart field, nonEmptyPart hint, offset, raw⟩

end Token

def literalSegment (text : List Char) : List Segment :=
  if text.isEmpty then [] else [.literal (String.ofList text)]

/-- The literal before the first token, the token's body, and the text after it. -/
def splitAtToken (text : List Char) : Option (List Char × List Char × List Char) :=
  match splitAtMark Token.opener text with
  | none => none
  | some (front, rest) =>
      match splitAtMark ['\x7d'] rest with
      | none => none
      | some (body, back) => some (front, body, back)

theorem splitAtToken_eq_append {text front body back : List Char}
    (h : splitAtToken text = some (front, body, back)) :
    front ++ (Token.opener ++ body ++ ['\x7d']) ++ back = text := by
  unfold splitAtToken at h
  split at h
  · cases h
  · next hopen =>
      split at h
      · cases h
      · next hclose =>
          cases h
          rw [← splitAtMark_eq_append hopen, ← splitAtMark_eq_append hclose]
          simp

theorem length_lt_of_splitAtToken {text front body back : List Char}
    (h : splitAtToken text = some (front, body, back)) : back.length < text.length := by
  rw [← splitAtToken_eq_append h]
  simp [Token.opener]
  omega

/--
The segments of a text that begins `offset` bytes into the pattern text; `done`
holds the segments before it, last first.
-/
def segmentsFrom (done : List Segment) (offset : Nat) (text : List Char) : List Segment :=
  match _h : splitAtToken text with
  | none => done.reverse ++ literalSegment text
  | some (front, body, back) =>
      let start := offset + byteCount front
      let token := Token.ofBody start body
      segmentsFrom (.token token :: (literalSegment front ++ done))
        (start + token.raw.utf8ByteSize) back
termination_by text.length
decreasing_by exact length_lt_of_splitAtToken ‹_›

def segments (text : String) : List Segment := segmentsFrom [] 0 text.toList

end LogPattern
