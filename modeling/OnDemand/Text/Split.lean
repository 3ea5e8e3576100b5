/-!
# Splitting texts

A text is cut at every character that satisfies a test. The separators are
dropped, and empty parts are kept, so there is one part more than separators.
-/

namespace OnDemand.Text

/-- The parts of a text between its separators. -/
def splitWhen (separator : Char → Bool) : List Char → List (List Char)
  | [] => [[]]
  | char :: rest =>
      if separator char then [] :: splitWhen separator rest
      else
        match splitWhen separator rest with
        | [] => [[char]]
        | part :: parts => (char :: part) :: parts

end OnDemand.Text
