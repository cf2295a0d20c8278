/-!
The length of text in UTF-8.
-/
namespace Lookback.Text

/-- How many bytes UTF-8 takes for a text. -/
def byteLength : List Char → Nat
  | [] => 0
  | c :: cs => c.utf8Size + byteLength cs

end Lookback.Text
