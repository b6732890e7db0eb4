namespace BrowserPilot.Key

/-!
# Key names

Callers use abstract names for keys, in any case; the page understands native
names. A name outside the table stands for itself.
-/

/-- The lower-case form of a character, where that is an ASCII character: the capitals of the
alphabet, and the Kelvin sign, which is a capital `k`. No other character has one. -/
def fold (c : Char) : Char :=
  if 'A' ≤ c ∧ c ≤ 'Z' then Char.ofNat (c.toNat + 32)
  else if c = '\u212A' then 'k'
  else c

/-- Abstract names in lower case, and the native name of each. -/
def table : List (String × String) := [
  ("/", "Divide"),
  ("\\", "Backslash"),
  ("alt", "Alt"),
  ("arrowdown", "ArrowDown"),
  ("arrowleft", "ArrowLeft"),
  ("arrowright", "ArrowRight"),
  ("arrowup", "ArrowUp"),
  ("backspace", "Backspace"),
  ("capslock", "CapsLock"),
  ("cmd", "Meta"),
  ("ctrl", "Control"),
  ("delete", "Delete"),
  ("end", "End"),
  ("enter", "Enter"),
  ("esc", "Escape"),
  ("home", "Home"),
  ("insert", "Insert"),
  ("option", "Alt"),
  ("pagedown", "PageDown"),
  ("pageup", "PageUp"),
  ("shift", "Shift"),
  ("space", " "),
  ("super", "Meta"),
  ("tab", "Tab"),
  ("win", "Meta")]

/-- The native name for an abstract name of the table. -/
def lookup? (name : String) : Option String :=
  table.lookup (String.ofList (name.toList.map fold))

/-- The native name of a key. -/
def native (name : String) : String := (lookup? name).getD name

end BrowserPilot.Key
