import LineShell.Text.Blank
import LineShell.Text.Newlines

/-!
# Env files

A file of variables, one binding after another.

* A binding is `KEY=value`, with `export` before it or not; a key without an equals sign is named
  and has no value;
* a value between quotes may go on over line ends; between double quotes a backslash writes the
  control characters, between single quotes only the quote and itself;
* a bare value ends with its line, or before a number sign that follows a blank, and loses the
  blanks around it;
* after a number sign the rest of a line is a comment; a binding that is followed by anything else
  is no binding: the line is passed over, and its number is kept in `EnvFile.unread`;
* a byte order mark in front of the file says nothing.

`EnvFile.values` puts in the variables that values refer to, as `${NAME}` or with a default as
`${NAME:-default}`. Of several bindings of one key the last counts, in the place of the first.
-/

namespace LineShell

structure EnvFile where
  /-- The keys with their values, if they have one, in order. -/
  bindings : List (String × Option String) := []
  /-- The numbers of the lines that something begins on that is no binding. -/
  unread : List Nat := []
  deriving DecidableEq, Repr

namespace EnvFile

open Text

abbrev Binding := String × Option String

/-! ## 1. Pieces of a binding -/

/-- A blank that does not end the line. -/
def isInlineBlank (c : Char) : Bool := isBlank c && c != '\n'

def skipInline (cs : List Char) : List Char := cs.dropWhile isInlineBlank

def nextLine (cs : List Char) : List Char := (cs.dropWhile (· != '\n')).drop 1

/-- The text after the word `export` and the blanks that must follow it. -/
def skipExport (cs : List Char) : List Char :=
  match cs with
  | 'e' :: 'x' :: 'p' :: 'o' :: 'r' :: 't' :: rest =>
    if (rest.head?.map isInlineBlank).getD false then skipInline rest else cs
  | _ => cs

/-- A quoted text up to its closing quote `q`, and what follows. The character after a backslash
    belongs to the text, whatever it is. -/
def upToQuote (q : Char) : List Char → Option (List Char × List Char)
  | [] => none
  | c :: cs =>
    if c = q then some ([], cs)
    else if c = '\\' then
      match cs with
      | [] => none
      | d :: ds => (upToQuote q ds).map fun r => (c :: d :: r.1, r.2)
    else (upToQuote q cs).map fun r => (c :: r.1, r.2)

/-- The character that a letter after a backslash writes, if it writes one. -/
def escapeOf? (double : Bool) (c : Char) : Option Char :=
  if c = '\\' || c = '\'' then some c
  else if !double then none
  else
    match c with
    | '"' => some '"'
    | 'a' => some '\x07'
    | 'b' => some '\x08'
    | 'f' => some '\x0c'
    | 'n' => some '\n'
    | 'r' => some '\r'
    | 't' => some '\t'
    | 'v' => some '\x0b'
    | _ => none

/-- A quoted text with its escapes replaced. -/
def unescaped (double : Bool) : List Char → List Char
  | [] => []
  | [c] => [c]
  | c :: d :: cs =>
    if c = '\\' then
      match escapeOf? double d with
      | some e => e :: unescaped double cs
      | none => c :: unescaped double (d :: cs)
    else c :: unescaped double (d :: cs)

/-- A bare value up to a number sign that follows a blank. `afterBlank` tells whether a blank came
    last. -/
def beforeComment (afterBlank : Bool) : List Char → List Char
  | [] => []
  | c :: cs => if afterBlank && c = '#' then [] else c :: beforeComment (isBlank c) cs

/-! ## 2. A binding

Every reader answers what it has read and what follows, or else the text it could not go on
from. -/

/-- A quoted value, read from its opening quote `q` on. -/
def quotedValue (q : Char) (rest : List Char) : Except (List Char) (List Char × List Char) :=
  match upToQuote q rest with
  | some (text, after) => .ok (unescaped (q == '"') text, after)
  | none => .error (q :: rest)

def readValue (afterBlank : Bool) (cs : List Char) : Except (List Char) (List Char × List Char) :=
  match cs with
  | '\'' :: rest => quotedValue '\'' rest
  | '"' :: rest => quotedValue '"' rest
  | _ =>
    .ok (trimEnd (beforeComment afterBlank (cs.takeWhile (· != '\n'))), cs.dropWhile (· != '\n'))

/-- A key; a comment has none. -/
def readKey (cs : List Char) : Except (List Char) (Option (List Char) × List Char) :=
  match cs with
  | '#' :: _ => .ok (none, cs)
  | '\'' :: rest =>
    match rest.takeWhile (· != '\''), rest.dropWhile (· != '\'') with
    | k :: ks, _ :: after => .ok (some (k :: ks), after)
    | _, _ => .error cs
  | _ =>
    let inKey (c : Char) : Bool := c != '=' && c != '#' && !isBlank c
    match cs.takeWhile inKey with
    | [] => .error cs
    | k :: ks => .ok (some (k :: ks), cs.dropWhile inKey)

/-- A value after an equals sign, if there is one. -/
def readAssignment (cs : List Char) : Except (List Char) (Option (List Char) × List Char) :=
  match skipInline cs with
  | '=' :: rest =>
    (readValue ((rest.head?.map isInlineBlank).getD false) (skipInline rest)).map fun r =>
      (some r.1, r.2)
  | rest => .ok (none, rest)

/-- The end of a line: blanks, a comment, and the line feed. -/
def readLineEnd (cs : List Char) : Except (List Char) (List Char) :=
  match skipInline cs with
  | [] => .ok []
  | '\n' :: after => .ok after
  | '#' :: comment => .ok (nextLine comment)
  | _ => .error cs

def readBinding (cs : List Char) : Except (List Char) (Option Binding × List Char) :=
  match readKey cs with
  | .error failed => .error failed
  | .ok (key, rest) =>
    match readAssignment rest with
    | .error failed => .error failed
    | .ok (value, rest) =>
      match readLineEnd rest with
      | .error failed => .error failed
      | .ok rest => .ok (key.map fun k => (String.ofList k, value.map String.ofList), rest)

/-! ## 3. The file -/

def withBinding (b : Binding) (f : EnvFile) : EnvFile := { f with bindings := b :: f.bindings }

def withUnread (line : Nat) (f : EnvFile) : EnvFile := { f with unread := line :: f.unread }

/-- The rest of a text that ends `lines` lines, read in at most `steps` steps; each one takes a
    character or more. A step begins where the one before it has ended, even if that is before
    empty lines. -/
def parseFrom (lines : Nat) : Nat → List Char → EnvFile
  | 0, _ => {}
  | steps + 1, cs =>
    match cs.dropWhile isBlank with
    | [] => {}
    | c :: rest =>
      match readBinding (skipExport (c :: rest)) with
      | .ok (some b, after) => (parseFrom lines steps after).withBinding b
      | .ok (none, after) => parseFrom lines steps after
      | .error failed =>
        (parseFrom lines steps (nextLine failed)).withUnread (lines - cs.count '\n' + 1)

/-- A text without the byte order mark in front of it. -/
def withoutMark : List Char → List Char
  | '\uFEFF' :: cs => cs
  | cs => cs

def parse (text : String) : EnvFile :=
  let chars := withoutMark (unified text).toList
  parseFrom (chars.count '\n') chars.length chars

/-! ## 4. References -/

/-- A variable that a value refers to, and what follows in the value. -/
structure Reference where
  name : String
  default : Option String
  rest : List Char

/-- The reference that a text begins with. A name holds neither a colon nor a closing brace, a
    default no closing brace. -/
def reference? : List Char → Option Reference
  | '$' :: '{' :: cs =>
    let inName (c : Char) : Bool := c != '}' && c != ':'
    let name := String.ofList (cs.takeWhile inName)
    match cs.dropWhile inName with
    | '}' :: rest => some ⟨name, none, rest⟩
    | ':' :: '-' :: more =>
      match more.dropWhile (· != '}') with
      | [] => none
      | _ :: rest => some ⟨name, some (String.ofList (more.takeWhile (· != '}'))), rest⟩
    | _ => none
  | _ => none

/-- A reference takes part of the text. -/
theorem length_rest_lt {cs : List Char} {r : Reference} (h : reference? cs = some r) :
    r.rest.length < cs.length := by
  unfold reference? at h
  split at h
  · next cs =>
    have hd := (List.dropWhile_suffix (fun c : Char => c != '}' && c != ':') (l := cs)).length_le
    dsimp only at h
    split at h
    · next rest he =>
      rw [he] at hd
      simp only [Option.some.injEq] at h
      subst h
      simp only [List.length_cons] at hd ⊢
      omega
    · next more he =>
      rw [he] at hd
      have hm := (List.dropWhile_suffix (fun c : Char => c != '}') (l := more)).length_le
      split at h
      · simp at h
      · next rest hr =>
        rw [hr] at hm
        simp only [Option.some.injEq] at h
        subst h
        simp only [List.length_cons] at hd hm ⊢
        omega
    · simp at h
  · simp at h

/-- A text with its references replaced; what stands in their place is taken as it is. -/
def expanded (value : Reference → String) (cs : List Char) : List Char :=
  match _h : reference? cs with
  | some r => (value r).toList ++ expanded value r.rest
  | none =>
    match cs with
    | [] => []
    | c :: rest => c :: expanded value rest
termination_by cs.length
decreasing_by
  · exact length_rest_lt (by assumption)
  · simp

/-- What stands for a reference: the value of the last binding before it, or else of the variable
    `outside`, or else the default. A key without a value stands for nothing. -/
def Reference.value (outside : String → Option String) (found : List Binding) (r : Reference) :
    String :=
  match found.lookup r.name with
  | some value => value.getD ""
  | none => (outside r.name).getD (r.default.getD "")

/-- The bindings with one more: in the place of an earlier one of its key, or else at the end. -/
def insert (b : Binding) : List Binding → List Binding
  | [] => [b]
  | c :: cs => if c.1 = b.1 then b :: cs else c :: insert b cs

/-- The keys of a file and their values, given the variables `outside` of it. -/
def values (outside : String → Option String) (f : EnvFile) : List Binding :=
  f.bindings.foldl
    (fun found b => insert (b.1, b.2.map fun v =>
      String.ofList (expanded (Reference.value outside found) v.toList)) found) []

end EnvFile

end LineShell
