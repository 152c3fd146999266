/-!
# Line ends

A text from outside may end its lines in a carriage return and a line feed, or in a carriage return
alone. `unified` writes every line end as one line feed.
-/

namespace LineShell.Text

/-- The text with every line end written as one line feed. `afterReturn` tells that the character
    before was a carriage return, which a line feed now does not repeat. -/
def unifiedFrom (afterReturn : Bool) : List Char → List Char
  | [] => []
  | c :: cs =>
    if c = '\r' then '\n' :: unifiedFrom true cs
    else if c = '\n' && afterReturn then unifiedFrom false cs
    else c :: unifiedFrom false cs

def unified (s : String) : String := String.ofList (unifiedFrom false s.toList)

end LineShell.Text
