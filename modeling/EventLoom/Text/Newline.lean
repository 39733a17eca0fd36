import EventLoom.Text.Basic

/-!
# Newlines

Text files end their lines in several ways; a text read from a file has them all as one line
feed.
-/

namespace EventLoom.Text

/-- The text with every carriage return, and every carriage return with the line feed behind
it, written as one line feed. -/
def unifyNewlines : Text → Text
  | [] => []
  | '\r' :: '\n' :: rest => '\n' :: unifyNewlines rest
  | '\r' :: rest => '\n' :: unifyNewlines rest
  | c :: rest => c :: unifyNewlines rest

end EventLoom.Text
