import BrowserPilot.Text.Blank

namespace BrowserPilot.Research

/-!
# Code fences

Models like to put their answer between two lines of three backticks. The first
line may carry a language tag and is dropped whole.
-/

/-- The characters of a fence. -/
def fence : List Char := ['\x60', '\x60', '\x60']

/-- What follows the first line, or everything if there is only one line. -/
def afterFirstLine (cs : List Char) : List Char :=
  match cs.dropWhile (· != '\n') with
  | [] => cs
  | _ :: rest => rest

/-- The characters without a fence and the blanks before it at their end, if they end in one. -/
def dropClosing (cs : List Char) : List Char :=
  let kept := Text.dropBlankEnd cs
  if fence.isSuffixOf kept then kept.take (kept.length - fence.length) else cs

/-- The content of a fenced text without the blanks around it; any other text without the blanks
around it. -/
def unfenceChars (cs : List Char) : List Char :=
  let trimmed := Text.trimChars cs
  match fence.isPrefixOf? trimmed with
  | none => trimmed
  | some rest => Text.trimChars (dropClosing (afterFirstLine rest))

/-- A model's answer without the fence around it. -/
def unfence (s : String) : String := String.ofList (unfenceChars s.toList)

end BrowserPilot.Research
