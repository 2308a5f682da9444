import PokerClient.Json.Value
import PokerClient.Numeric.Layout
import PokerClient.Text.Quoted

/-!
# Showing JSON values

A value as a plain word for a reader. A string shows as itself, and between
quotation marks when it stands inside a list or an object.
-/

namespace PokerClient
namespace Json

open Numeric Text

namespace Value

mutual
/-- A value as it shows inside a container. -/
def displayInside : Value → List Char
  | null => "None".toList
  | bool b => (if b then "True" else "False").toList
  | int n => digitsOfInt n
  | float x => Layout.standard.write x
  | str s => Quoted.write s.toList
  | torn points => (quotedPoints points).toList
  | list items => '[' :: displayItems items ++ [']']
  | object fields => '\x7b' :: displayFields fields ++ ['\x7d']

def displayItems : List Value → List Char
  | [] => []
  | [v] => v.displayInside
  | v :: w :: rest => v.displayInside ++ ',' :: ' ' :: displayItems (w :: rest)

def displayFields : List (String × Value) → List Char
  | [] => []
  | [(k, v)] => Quoted.write k.toList ++ ':' :: ' ' :: v.displayInside
  | (k, v) :: f :: rest =>
    Quoted.write k.toList ++ ':' :: ' ' :: v.displayInside ++
      ',' :: ' ' :: displayFields (f :: rest)
end

def display : Value → String
  | str s => s
  | torn points => textOfPoints points
  | v => String.ofList v.displayInside

end Value
end Json
end PokerClient
