import TwoWaySql.Text.Basic

/-!
# Names in generated code

File names and field names become names of the generated Rust code: types in camel case, fields
in snake case, constants in capitals. Only ASCII letters and digits are carried over; what lies
between them separates words.
-/
namespace TwoWaySql.Naming

/-! ## Camel case -/

/-- The name in camel case; the flag says whether a word starts here. -/
def camelFrom (starts : Bool) : Text → Text
  | [] => []
  | c :: rest =>
    if c.isAlphanum then (if starts then c.toUpper else c.toLower) :: camelFrom false rest
    else camelFrom true rest

/-- The words of a name, each with a capital first letter and small others. -/
def camel (name : Text) : Text := camelFrom true name

/-! ## Snake case -/

/-- Whether a text goes on with a small letter. -/
def startsLower (t : Text) : Bool :=
  match t with
  | [] => false
  | c :: _ => c.isLower

/-- Whether the text behind a capital is the plural ending of an acronym: an `s` that no small
letter follows. -/
def isPlural (rest : Text) : Bool :=
  match rest with
  | 's' :: rest => !startsLower rest
  | _ => false

/-- Whether a word starts at `c`: at a capital behind a small letter or a digit, and at the last
capital of a row that goes on in small letters. -/
def startsWord (previous : Option Char) (c : Char) (rest : Text) : Bool :=
  match previous with
  | none => false
  | some p =>
    c.isUpper && (p.isLower || p.isDigit || (p.isUpper && startsLower rest && !isPlural rest))

/-- The runs of letters and digits of a name in small letters, some of them empty. -/
def runs (previous : Option Char) : Text → List Text
  | [] => [[]]
  | c :: rest =>
    if !c.isAlphanum then [] :: runs (some c) rest
    else
      let here := Text.extend c.toLower (runs (some c) rest)
      if startsWord previous c rest then [] :: here else here

/-- The words of a name in small letters. -/
def words (name : Text) : List Text := (runs none name).filter fun word => !word.isEmpty

/-- The words of a name in small letters, with underscores between them. -/
def snake (name : Text) : Text := Text.join "_" (words name)

/-! ## Identifiers -/

/-- Whether a character may start an identifier. -/
def startsIdentifier (c : Char) : Bool := c.isAlpha || c == '_'

/-- Whether a text is an ASCII identifier. -/
def isIdentifier : Text → Bool
  | [] => false
  | c :: rest => startsIdentifier c && rest.all fun c => c.isAlphanum || c == '_'

/-- The reserved words that a raw identifier can spell. -/
def reservedWords : List Text :=
  ["abstract", "as", "async", "await", "become", "box", "break", "const", "continue", "do",
    "dyn", "else", "enum", "extern", "false", "final", "fn", "for", "gen", "if", "impl", "in",
    "let", "loop", "macro", "match", "mod", "move", "mut", "override", "priv", "pub", "ref",
    "return", "static", "struct", "trait", "true", "try", "type", "typeof", "unsafe", "unsized",
    "use", "virtual", "where", "while", "yield"].map String.toList

/-- The reserved words that no raw identifier can spell. -/
def pathWords : List Text := ["crate", "self", "Self", "super", "_"].map String.toList

/-- The identifier of a field: the name in snake case, an underscore behind a word that is
reserved for paths and the raw form of any other reserved word. -/
def fieldIdentifier? (name : Text) : Option Text :=
  let word := snake name
  if !isIdentifier word then none
  else if word ∈ pathWords then some (word ++ "_")
  else if word ∈ reservedWords then some ("r#" ++ word)
  else some word

/-- The name of the record of a template: its file's stem in camel case, and a suffix. The stem
has to start with a letter and the whole has to be an identifier. -/
def recordName? (stem suffix : Text) : Option Text :=
  let base := camel stem
  match base with
  | [] => none
  | c :: _ => if c.isAlpha && isIdentifier (base ++ suffix) then some (base ++ suffix) else none

/-- The name of the constant that holds the template of a record. -/
def constantName (recordName : Text) : Text := (snake recordName).toUpper ++ "_SQL"

end TwoWaySql.Naming
