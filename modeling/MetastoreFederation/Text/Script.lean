import MetastoreFederation.Text.Category
import MetastoreFederation.Text.Script.Table

/-!
Scripts of characters. A script is found by its name, long or of four letters; the characters that
several scripts share have a script of their own.
-/

set_option autoImplicit false
set_option relaxedAutoImplicit false

namespace MetastoreFederation.Text.Script

/-- The characters of the script with this name, in small letters without blanks. -/
def named? (name : String) : Option (List Category.Run) :=
  (Table.rows.find? fun row => row.1.contains name).map fun row => Category.ofTable row.2

end MetastoreFederation.Text.Script
