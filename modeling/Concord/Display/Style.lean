/-!
# Styled text

With colour on, a text may be styled: an opening sequence for the terminal, the text, and the
sequence that ends all styles. Such an end inside the text would end the style too early, so the
opening sequence is repeated after each. With colour off a text stays as it is.
-/

namespace Concord.Display

/-- How a text stands out. -/
inductive Style where
  | bold
  | dimmed
  | red
  | green
deriving DecidableEq, Repr

/-- The sequence that starts a style. -/
def Style.opening : Style → List Char
  | .bold => ['\x1b', '[', '1', 'm']
  | .dimmed => ['\x1b', '[', '2', 'm']
  | .red => ['\x1b', '[', '3', '1', 'm']
  | .green => ['\x1b', '[', '3', '2', 'm']

/-- The sequence that ends all styles. -/
def reset : List Char := ['\x1b', '[', '0', 'm']

/-- The text with the opening sequence repeated after each end of all styles. -/
def reopen (opening : List Char) : List Char → List Char
  | '\x1b' :: '[' :: '0' :: 'm' :: rest => reset ++ opening ++ reopen opening rest
  | c :: rest => c :: reopen opening rest
  | [] => []

/-- The text in a style, if colour is on. -/
def Style.apply (style : Style) (color : Bool) (text : String) : String :=
  if color then
    String.ofList (style.opening ++ reopen style.opening text.toList ++ reset)
  else
    text

end Concord.Display
