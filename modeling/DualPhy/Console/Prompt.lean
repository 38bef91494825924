import DualPhy.Console.Key

/-!
# Prompts

What the console asks, and the keys that an answer in a line of its own stands for.
-/

namespace DualPhy

/-- A question of the console. -/
inductive Prompt
  /-- Choose an item; the cursor starts at one of them. -/
  | choose (title : String) (items : List String) (cursor : Nat)
  /-- Type a line; an empty one stands for the offered value. -/
  | type (title offered : String)
  deriving DecidableEq

namespace Prompt

/-- The lines that show a question. -/
def lines : Prompt → List String
  | .choose title items cursor =>
      (title ++ ":") :: items.zipIdx.map fun (item, place) =>
        (if place = cursor then "> " else "  ") ++ toString place ++ " " ++ item
  | .type title offered => [title ++ " [" ++ offered ++ "]:"]

/-- The keys that a typed line stands for. In a list, the number of an item
stands for choosing it. -/
def keys (prompt : Prompt) (line : List Char) : List Key :=
  Key.ofTyped <|
    match prompt with
    | .type _ _ => Key.line line
    | .choose _ items cursor =>
        match (String.ofList line).toNat? with
        | some place => Key.pick ((place + items.length - cursor) % items.length)
        | none => Key.line line

end Prompt
end DualPhy
