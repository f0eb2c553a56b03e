import EventPipeline.Text.Markless
import EventPipeline.Text.Unassigned

/-! Texts as quoted literals, for diagnostics. Quotes and backslashes are escaped, and so is every
character that would leave no mark on the page and every code point that is no character. -/

namespace EventPipeline.Text

def hexText (n : Nat) : String := String.ofList (Nat.toDigits 16 n)

def escapeLiteral (c : Char) : String :=
  if c = '"' then "\\\""
  else if c = '\\' then "\\\\"
  else if c = '\n' then "\\n"
  else if c = '\r' then "\\r"
  else if c = '\t' then "\\t"
  else if c.toNat = 0 then "\\0"
  else if isMarkless c || isUnassigned c then "\\u\x7b" ++ hexText c.toNat ++ "\x7d"
  else c.toString

def literal (text : String) : String :=
  "\"" ++ String.join (text.toList.map escapeLiteral) ++ "\""

end EventPipeline.Text
