/-
This file cuts texts into lines and pieces.
-/

namespace HostBridge.Text

/-- A line ends at a line feed, and one carriage return before it belongs to the line end. -/
def lines : List Char → List (List Char)
  | [] => []
  | '\r' :: '\n' :: rest => [] :: lines rest
  | '\n' :: rest => [] :: lines rest
  | c :: rest =>
      match lines rest with
      | [] => [[c]]
      | line :: more => (c :: line) :: more

/-- The rest of the text after its beginning, if it begins so. -/
def afterPrefix? : List Char → List Char → Option (List Char)
  | [], text => some text
  | _ :: _, [] => none
  | c :: start, d :: text => if c = d then afterPrefix? start text else none

theorem afterPrefix?_eq_some_iff {start text rest : List Char} :
    afterPrefix? start text = some rest ↔ text = start ++ rest := by
  induction start generalizing text with
  | nil => simp [afterPrefix?, eq_comm]
  | cons c start ih =>
      cases text with
      | nil => simp [afterPrefix?]
      | cons d text =>
          by_cases same : c = d
          · simp [afterPrefix?, same, ih]
          · simp [afterPrefix?, same, Ne.symm same]

/-- Cuts the text at every separator, from the left. The first argument counts the characters
of a separator that are still to be passed over. -/
def cut (separator : List Char) : Nat → List Char → List (List Char)
  | _, [] => [[]]
  | skipped + 1, _ :: rest => cut separator skipped rest
  | 0, c :: rest =>
      if (afterPrefix? separator (c :: rest)).isSome then
        [] :: cut separator (separator.length - 1) rest
      else
        match cut separator 0 rest with
        | [] => [[c]]
        | piece :: more => (c :: piece) :: more

/-- An empty separator stands between any two characters and at both ends. -/
def split (separator text : List Char) : List (List Char) :=
  if separator.isEmpty then [] :: text.map (fun c => [c]) ++ [[]]
  else cut separator 0 text

end HostBridge.Text
