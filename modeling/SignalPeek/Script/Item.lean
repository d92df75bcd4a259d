import SignalPeek.Text.Quoted

/-!
# Items of a script

The items that scripted streams carry: whole numbers and texts.  A number and a text are never the
same item.
-/

namespace SignalPeek.Script

/-- An item. -/
inductive Item where
  | int (value : Int)
  | text (value : String)
  deriving DecidableEq, Repr

/-- The detailed form of an item: a number in decimal, a text in quotes. -/
def Item.detail : Item → String
  | .int value => toString value
  | .text value => Text.quoted value

end SignalPeek.Script
