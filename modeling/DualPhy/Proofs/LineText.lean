/-!
# Texts made of lines

What is printed is made of lines, each with its end. A text of lines that contain no line end
themselves gives its lines back.
-/

namespace DualPhy

/-- Lines with their ends, one behind the other. -/
def withLineEnds (lines : List (List Char)) : List Char :=
  lines.flatMap fun line => line ++ ['\n']

/-- The lines of a text in which each of them has its end. -/
def cutLines (text : List Char) : List (List Char) := (text.splitOn '\n').dropLast

theorem cutLines_withLineEnds
    {lines : List (List Char)}
    (single : ∀ line ∈ lines, '\n' ∉ line) :
    cutLines (withLineEnds lines) = lines := by
  induction lines with
  | nil => rfl
  | cons line lines inductionHypothesis =>
      obtain ⟨first, rest⟩ := List.forall_mem_cons.mp single
      have start : withLineEnds (line :: lines) = line ++ '\n' :: withLineEnds lines := by
        simp [withLineEnds]
      rw [start, cutLines, List.splitOn_append_cons_self_of_not_mem first,
        List.dropLast_cons_of_ne_nil (List.splitOn_ne_nil _ _)]
      exact congrArg (line :: ·) (inductionHypothesis rest)

/-- Lines that contain no line end are determined by their text. -/
theorem withLineEnds_inj
    {first second : List (List Char)}
    (single : ∀ line ∈ first, '\n' ∉ line)
    (otherSingle : ∀ line ∈ second, '\n' ∉ line)
    (same : withLineEnds first = withLineEnds second) :
    first = second := by
  rw [← cutLines_withLineEnds single, same, cutLines_withLineEnds otherSingle]

theorem toList_join_lines (lines : List String) :
    (String.join (lines.map fun line => line ++ "\n")).toList =
      withLineEnds (lines.map String.toList) := by
  simp [withLineEnds, String.toList_join, List.flatMap_map]

/-- The lines of an output. -/
def outputLines (output : String) : List String :=
  (cutLines output.toList).map String.ofList

/-- The lines that make up an output are its lines. -/
theorem outputLines_join
    {lines : List String}
    (single : ∀ line ∈ lines, '\n' ∉ line.toList) :
    outputLines (String.join (lines.map fun line => line ++ "\n")) = lines := by
  rw [outputLines, toList_join_lines, cutLines_withLineEnds (List.forall_mem_map.mpr single),
    List.map_map]
  exact List.map_id'' (fun _ => String.ofList_toList) lines

end DualPhy
