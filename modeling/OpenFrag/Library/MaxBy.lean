namespace List

variable {α β : Type _}

-- An element with the greatest key, the last one of several.
def maxByKey? [LE β] [DecidableLE β] (key : α → β) : List α → Option α
  | [] => none
  | a :: as =>
    match maxByKey? key as with
    | none => some a
    | some b => if key a ≤ key b then some b else some a

end List
