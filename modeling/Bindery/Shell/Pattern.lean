/-
This file matches texts against patterns: a star stands for any text, a question mark for any
character, and brackets for one of the characters that they hold. A backslash takes the meaning
from the character after it.
-/

namespace Bindery.Shell

/-- A member of a set of characters. -/
inductive Member where
  | range (first last : Char)
  | ofClass (name : String)
deriving DecidableEq, Repr

/-- A part of a pattern. -/
inductive Glob where
  /-- Any text. -/
  | many
  /-- Any character. -/
  | single
  | exactly (c : Char)
  /-- A character that is a member or, if `inside` is false, no member. -/
  | among (inside : Bool) (members : List Member)
deriving DecidableEq, Repr

/-- Whether a character is a sign that is seen and no letter or digit. -/
def isPunctuation (c : Char) : Bool := '!' ≤ c && c ≤ '~' && !c.isAlphanum

/-- The classes of characters that a set can name. -/
def characterClasses : List (String × (Char → Bool)) := [
  ("alnum", Char.isAlphanum),
  ("cntrl", fun c => c < ' ' || c = '\x7f'),
  ("lower", Char.isLower),
  ("space", fun c => c = ' ' || ('\t' ≤ c && c ≤ '\r')),
  ("alpha", Char.isAlpha),
  ("digit", Char.isDigit),
  ("print", fun c => ' ' ≤ c && c ≤ '~'),
  ("upper", Char.isUpper),
  ("blank", fun c => c = ' ' || c = '\t'),
  ("graph", fun c => '!' ≤ c && c ≤ '~'),
  ("punct", isPunctuation),
  ("xdigit", fun c => c.isDigit || ('a' ≤ c && c ≤ 'f') || ('A' ≤ c && c ≤ 'F'))]

/-- The rank of a byte: bytes of the upper half come before the others. -/
def byteRank (c : Char) : Int := if c.toNat < 0x80 then c.toNat else (c.toNat : Int) - 0x100

/-- Whether a character is a member of a set. -/
def Member.admits : Member → Char → Bool
  | .range first last, c =>
    decide (byteRank first ≤ byteRank c) && decide (byteRank c ≤ byteRank last)
  | .ofClass name, c => ((characterClasses.lookup name).map (· c)).getD false

/-- The class that a text names between colons, with what follows its bracket. -/
def readClass? (text : List Char) : Option (String × List Char) :=
  match text with
  | ':' :: rest =>
    characterClasses.findSome? fun entry =>
      let front := entry.1.toList ++ [':', ']']
      if front.isPrefixOf rest then some (entry.1, rest.drop front.length) else none
  | _ => none

/-- A character of a set, which a backslash may stand before, with what follows it. -/
def readMemberSign? : List Char → Option (Char × List Char)
  | [] => none
  | ['\\'] => none
  | '\\' :: c :: rest => some (c, rest)
  | c :: rest => some (c, rest)

/-- The member of a set at the front of a text, with what follows it. -/
def readMember? (text : List Char) : Option (Member × List Char) :=
  let ofClass :=
    match text with
    | '[' :: rest => readClass? rest
    | _ => none
  match ofClass with
  | some (name, rest) => some (.ofClass name, rest)
  | none =>
    match readMemberSign? text with
    | none => none
    | some (first, '-' :: rest) =>
      if rest.head? = some ']' then some (.range first first, '-' :: rest)
      else (readMemberSign? rest).map fun (last, left) => (.range first last, left)
    | some (first, rest) => some (.range first first, rest)

/-- The members of a set up to the bracket that ends it, with what follows. A bracket at the
very beginning is a member. -/
def readMembers? : (fuel : Nat) → List Char → Option (List Member × List Char)
  | 0, _ => none
  | fuel + 1, text =>
    match readMember? text with
    | none => none
    | some (member, ']' :: rest) => some ([member], rest)
    | some (member, rest) =>
      (readMembers? fuel rest).map fun (members, left) => (member :: members, left)

/-- The set after an opening bracket, with what follows it. -/
def readSet? (text : List Char) : Option (Glob × List Char) :=
  match text with
  | '!' :: rest =>
    (readMembers? text.length rest).map fun (members, left) => (.among false members, left)
  | _ => (readMembers? text.length text).map fun (members, left) => (.among true members, left)

/-- The parts of a pattern. An opening bracket that is never closed stands for itself. -/
def globsOf : (fuel : Nat) → List Char → List Glob
  | 0, _ => []
  | _ + 1, [] => []
  | _ + 1, ['\\'] => [.exactly '\\']
  | fuel + 1, '\\' :: c :: rest => .exactly c :: globsOf fuel rest
  | fuel + 1, c :: rest =>
    if c = '*' then .many :: globsOf fuel rest
    else if c = '?' then .single :: globsOf fuel rest
    else if c = '[' then
      match readSet? rest with
      | some (set, left) => set :: globsOf fuel left
      | none => .exactly c :: globsOf fuel rest
    else .exactly c :: globsOf fuel rest

/-- Whether a part of a pattern that stands for one character stands for this one. -/
def Glob.fits : Glob → Char → Bool
  | .many, _ => false
  | .single, _ => true
  | .exactly c, d => c = d
  | .among inside members, d => members.any (·.admits d) == inside

/-- Whether parts of a pattern match a whole text. -/
def globsMatch : List Glob → (text : List Char) → Bool
  | [], text => text.isEmpty
  | .many :: globs, text => anyTail (globsMatch globs) text
  | glob :: globs, text =>
    match text with
    | [] => false
    | d :: text => glob.fits d && globsMatch globs text
where
  /-- Whether a test holds of a text or of what is left of it after some characters. -/
  anyTail (test : List Char → Bool) : List Char → Bool
    | [] => test []
    | d :: text => test (d :: text) || anyTail test text

/-- Whether a pattern matches a whole text. -/
def fits (pattern text : List Char) : Bool :=
  globsMatch (globsOf (pattern.length + 1) pattern) text

/-- The ways to cut a text in two, the shortest front first. -/
def splits : List Char → List (List Char × List Char)
  | [] => [([], [])]
  | c :: rest => ([], c :: rest) :: (splits rest).map fun (front, back) => (c :: front, back)

/-- How many characters a pattern matches at the front of a text, as few or as many as
possible. -/
def frontLength? (greedy : Bool) (pattern text : List Char) : Option Nat :=
  let globs := globsOf (pattern.length + 1) pattern
  let ways := if greedy then (splits text).reverse else splits text
  (ways.find? fun way => globsMatch globs way.1).map fun way => way.1.length

/-- How many characters a pattern leaves in front of what it matches at the back of a text. -/
def backStart? (greedy : Bool) (pattern text : List Char) : Option Nat :=
  let globs := globsOf (pattern.length + 1) pattern
  let ways := if greedy then splits text else (splits text).reverse
  (ways.find? fun way => globsMatch globs way.2).map fun way => way.1.length

/-- A text with the backslashes carried out. -/
def unescaped : List Char → List Char
  | [] => []
  | ['\\'] => ['\\']
  | '\\' :: c :: rest => c :: unescaped rest
  | c :: rest => c :: unescaped rest

end Bindery.Shell
