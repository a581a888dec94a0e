/-! Text searched and edited character by character. `occursIn` finds a piece
anywhere in a text, the empty piece everywhere; `replaceAll` replaces the
occurrences of a non-empty piece from left to right, each one starting after the
end of the one before. -/

namespace AssetBroker.Text

/-- Whether `piece` occurs in a list of characters. -/
def occursInList (piece : List Char) : List Char → Bool
  | [] => piece.isEmpty
  | c :: rest => piece.isPrefixOf (c :: rest) || occursInList piece rest

def occursIn (piece text : String) : Bool := occursInList piece.toList text.toList

/-- Replaces each occurrence of `piece` by `replacement`; `skip` characters of a replaced
occurrence are still to be passed over. -/
def replaceList (piece replacement : List Char) : Nat → List Char → List Char
  | _, [] => []
  | skip + 1, _ :: rest => replaceList piece replacement skip rest
  | 0, c :: rest =>
    if !piece.isEmpty && piece.isPrefixOf (c :: rest) then
      replacement ++ replaceList piece replacement (piece.length - 1) rest
    else c :: replaceList piece replacement 0 rest

def replaceAll (text piece replacement : String) : String :=
  String.ofList (replaceList piece.toList replacement.toList 0 text.toList)

end AssetBroker.Text
