/-! # Cutting text into pieces

Lines, pieces between separators, and the first occurrence of a character or of a
marker, all on character lists.
-/

namespace CommandBuffer.Text

/-- The pieces between the characters that satisfy `separates`; always at least one. -/
def splitWhere (separates : Char → Bool) : List Char → List (List Char)
  | [] => [[]]
  | c :: rest =>
    if separates c then [] :: splitWhere separates rest
    else match splitWhere separates rest with
      | [] => [[c]]
      | piece :: pieces => (c :: piece) :: pieces

theorem splitWhere_ne_nil (separates : Char → Bool) (text : List Char) :
    splitWhere separates text ≠ [] := by
  cases text with
  | nil => simp [splitWhere]
  | cons c rest =>
    rw [splitWhere]
    split
    · simp
    · split <;> simp

def splitOn (separator : Char) (text : List Char) : List (List Char) :=
  splitWhere (· == separator) text

/-- The lines of a text: what a final newline ends is not followed by an empty line. -/
def lines (text : List Char) : List (List Char) :=
  let pieces := splitOn '\n' text
  if pieces.getLast? = some [] then pieces.dropLast else pieces

/-- What stands before the first occurrence of the marker, and what stands after it. -/
def splitAtMarker? (marker : List Char) : List Char → Option (List Char × List Char)
  | [] => if marker.isEmpty then some ([], []) else none
  | c :: rest =>
    if marker.isPrefixOf (c :: rest) then some ([], (c :: rest).drop marker.length)
    else (splitAtMarker? marker rest).map fun (before, after) => (c :: before, after)

/-- The text up to the first occurrence of the marker, or all of it. -/
def cutAtMarker (marker : List Char) (text : List Char) : List Char :=
  ((splitAtMarker? marker text).map Prod.fst).getD text

/-- The pieces between the occurrences of a non-empty marker, with fuel for the length. -/
def splitOnMarkerFrom (marker : List Char) : Nat → List Char → List (List Char)
  | 0, text => [text]
  | fuel + 1, text =>
    match splitAtMarker? marker text with
    | none => [text]
    | some (before, after) => before :: splitOnMarkerFrom marker fuel after

/-- The pieces between the occurrences of a non-empty marker. -/
def splitOnMarker (marker text : List Char) : List (List Char) :=
  splitOnMarkerFrom marker text.length text

/-- The text without its last character, if that is `c`. -/
def dropEnd? (c : Char) (text : List Char) : Option (List Char) :=
  if text.getLast? = some c then some text.dropLast else none

end CommandBuffer.Text
