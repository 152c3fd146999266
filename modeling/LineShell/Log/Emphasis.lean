import LineShell.Text.Clusters
import LineShell.Text.Digits
import LineShell.Text.Pattern

/-!
# Emphasis

A table of the log emphasises what it knows in a message: tags, assignments, brackets, addresses,
calls, numbers, paths, quoted texts, links, and a few words. What is emphasised is marked, and so
written as a piece of its own. The pieces show only where a character looks at its neighbours for
its width: it does not look beyond its piece.
-/

namespace LineShell.Emphasis

open Text Text.Pattern

/-! ## 1. Parts of patterns -/

def isHex (c : Char) : Bool := c.isDigit || ('a' ≤ c && c ≤ 'f') || ('A' ≤ c && c ≤ 'F')

def isOneOf (t : String) (c : Char) : Bool := t.toList.contains c

def run (least most : Nat) (p : Char → Bool) : Pattern := between least most (one p)

/-- Digits of ASCII, perhaps with a point in them or after them. -/
def decimal : Pattern :=
  all [several (one Char.isDigit), optional (chars "."), many (one Char.isDigit)]

def exponent (digits : Pattern) : Pattern := all [chars "e", optional (one (isOneOf "-+")), digits]

/-- One digit of any script or more, as few as possible. -/
def fewDigits : Pattern := both (one isDecimal) (lazily (one isDecimal))

/-- A number with an exponent perhaps, but without a sign. -/
def unsigned (digits : Pattern) : Pattern := both decimal (optional (exponent digits))

def isFileChar (c : Char) : Bool := isWordChar c || isOneOf "-._+" c

def isLinkChar (c : Char) : Bool := c.isAlphanum || isOneOf "-$_+!\x60(),.?/;:&=%#~@" c

/-- A text on one line between two quotes, of which the second is not escaped. -/
def quotedBy (quote : String) : Pattern :=
  all [optional (chars "b"), chars quote, lazily (one (· != '\n')), notAfter (· == '\\'),
    chars quote]

/-! ## 2. What is emphasised -/

/-- A tag: its bracket, its name, what it holds up to the last closing bracket, and that. -/
def tag : Pattern :=
  all [group (chars "<"), group (many (one fun c => isWordChar c || isOneOf "-.:|" c)),
    group (many (one fun _ => true)), group (chars ">")]

/-- An assignment: a name, an equals sign, and perhaps a value. -/
def assignment : Pattern :=
  all [group (run 1 50 isWordChar), chars "=",
    optional (group (all [optional (chars "\""), several (one isWordChar), optional (chars "\"")]))]

def bracket : Pattern := group (one (isOneOf "[]\x7b\x7d()"))

/-- An address of four numbers with points between them. -/
def dottedAddress : Pattern :=
  group (both (between 3 3 (both (run 1 3 Char.isDigit) (chars "."))) (run 1 3 Char.isDigit))

/-- An address of up to eight numbers with colons between them. -/
def colonAddress : Pattern :=
  group (both (between 1 7 (all [run 1 4 isHex, chars ":", optional (chars ":")])) (run 1 4 isHex))

/-- An address of a device: so many bytes before the last, or so many groups of four digits. -/
def deviceAddress (bytes groups : Nat) : Pattern :=
  group (first [both (between bytes bytes (both (run 1 2 isHex) (chars "-"))) (run 1 2 isHex),
    both (between bytes bytes (both (run 1 2 isHex) (chars ":"))) (run 1 2 isHex),
    both (between groups groups (both (run 4 4 isHex) (chars "."))) (run 4 4 isHex)])

/-- An identifier of five groups of hexadecimal digits. -/
def identifier : Pattern :=
  group (all [run 8 8 isHex, between 3 3 (both (chars "-") (run 4 4 isHex)), chars "-",
    run 12 12 isHex])

/-- The name of something called. -/
def call : Pattern := both (group (lazily (one fun c => isWordChar c || c == '.'))) (chars "(")

/-- A word that stands alone. -/
def alone (word : String) : Pattern := all [edge, group (chars word), edge]

def complexNumber : Pattern :=
  group (all [notAfter isWordChar, optional (chars "-"), unsigned fewDigits,
    optional (both (one (isOneOf "-+")) (unsigned (several (one isDecimal)))), chars "j"])

def number : Pattern :=
  group (either (all [notAfter isWordChar, optional (chars "-"), unsigned fewDigits, edge])
    (both (chars "0x") (many (one isHex))))

/-- A path, and the file at its end. -/
def path : Pattern :=
  both (group (all [noEdge, many (both (chars "/") (several (one isFileChar))), chars "/"]))
    (group (many (one isFileChar)))

def quotedText : Pattern :=
  both (notAfter fun c => c == '\\' || isWordChar c)
    (group (first [quotedBy "'''", quotedBy "'", quotedBy "\"\"\"", quotedBy "\""]))

def link : Pattern :=
  group (all [first (["file", "https", "http", "ws", "wss"].map chars), chars "://",
    many (one isLinkChar)])

/-- What is emphasised as a whole. -/
def thing : Pattern :=
  first [dottedAddress, colonAddress, deviceAddress 7 3, deviceAddress 5 2, identifier, call,
    alone "True", alone "False", alone "None", group (chars "..."), complexNumber, number, path,
    quotedText, link]

/-- The words that are emphasised wherever they stand. -/
def keyword : Pattern :=
  group (first (["GET", "POST", "HEAD", "PUT", "DELETE", "OPTIONS", "TRACE", "PATCH"].map chars))

/-! ## 3. The message with its parts -/

/-- A message holds a character that looks at its neighbours. -/
def isSensitive (message : List Char) : Bool :=
  message.any fun c => c == joiner || c == emojiSelector

/-- A message with its marked parts; one without characters that look at their neighbours is left
    whole. -/
def emphasized (message : List Char) : List Glyph :=
  let found :=
    if isSensitive message then
      [tag, assignment, bracket, thing, keyword].flatMap fun p => p.spans message
    else []
  glyphs found message

end LineShell.Emphasis
