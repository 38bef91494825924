import DualPhy.Profile.Preview
import DualPhy.Proofs.Bodies
import DualPhy.Proofs.Coverage
import DualPhy.Proofs.LineText

/-!
# Previews and selections

A preview prints, without a flowgraph, the calls that each selection would make under a
profile. The main statement is that it tells the truth: on a controller whose last
configuration was the profile, whatever was selected, switched or sent before and after that, a
selection that meets no refusal makes exactly the calls that are printed about its PHY.
-/

namespace DualPhy

/-- An address ends with the number of its handler. -/
theorem callUrl_eq (base id : String) (index : UInt32) :
    callUrl base id index =
      String.ofList (withoutTrailingSlashes base.toList ++ "/block/".toList ++ id.toList) ++
        "/call/" ++ toString index.toNat ++ "/" := by
  apply String.toList_injective
  simp [callUrl, callUrlChars]

/-- A body is on one line. -/
theorem Payload.not_mem_bodyText (payload : Payload) : '\n' ∉ payload.bodyText.toList := by
  have natural : ∀ number : Nat, '\n' ∉ Nat.toDigits 10 number := not_mem_toDigits (by decide)
  have whole : ∀ number : Int, '\n' ∉ number.repr.toList := by
    intro number
    cases number with
    | ofNat size => simpa [Int.repr] using natural size
    | negSucc size => simpa [Int.repr] using natural (size + 1)
  rw [toList_bodyText]
  cases payload <;> simp [sent, Sent.chars, Sent.opening, natural, whole]

/-! ## What is printed about a PHY -/

namespace Profile

/-- The line about a call is one line. -/
theorem not_mem_previewCall (step : Nat) (call : Call) :
    '\n' ∉ (previewCall step call).toList := by
  have name : '\n' ∉ call.operation.name.toList := by
    cases call.operation <;> decide
  have digits : ∀ number : Nat, '\n' ∉ Nat.toDigits 10 number := not_mem_toDigits (by decide)
  simp [previewCall, Text.alignLeft, Text.alignRight, name, digits, Payload.not_mem_bodyText]

theorem not_mem_previewCalls {first : Nat} {calls : List Call} :
    ∀ line ∈ previewCalls first calls, '\n' ∉ line.toList := by
  induction calls generalizing first with
  | nil => exact List.forall_mem_nil _
  | cons call calls inductionHypothesis =>
      exact List.forall_mem_cons.mpr ⟨not_mem_previewCall first call, inductionHypothesis⟩

/-- The text of a preview gives its lines back. -/
theorem outputLines_previewText (profile : Profile) :
    outputLines profile.previewText = profile.preview := by
  refine outputLines_join (List.forall_mem_cons.mpr ⟨?_, List.forall_mem_flatMap.mpr ?_⟩)
  · cases profile.mode <;> decide
  · intro phy _
    refine List.forall_mem_cons.mpr ⟨by decide, List.forall_mem_cons.mpr ⟨?_, ?_⟩⟩
    · cases phy <;> decide
    · exact not_mem_previewCalls

/-- The heading of the lines about a PHY. -/
def heading (target : Phy) : String := "select " ++ target.name ++ ":"

/-- The lines of an output about a PHY: those behind its heading, up to the next empty line or
the end. -/
def linesAbout (output : List String) (target : Phy) : List String :=
  ((output.dropWhile (· ≠ heading target)).drop 1).takeWhile (· ≠ "")

/-- A line about a call: its number in two columns, the name of its operation in
twenty-eight, the number of its handler, and its body. -/
def stepLine (number : Nat) (operation : String) (handler : Nat) (body : String) : String :=
  "  " ++ String.ofList (Text.alignRight 2 (toString number).toList) ++ ". " ++
    String.ofList (Text.alignLeft 28 operation.toList) ++ " call/" ++ toString handler ++ "  " ++
    body

/-- Lines describe requests, one for one: each gives the number, counted from a first one, the
operation, the handler and the body of its request. -/
structure Describes (first : Nat) (lines : List String) (posts : List Post) : Prop where
  /-- There are as many lines as requests. -/
  length_eq : lines.length = posts.length
  /-- The line at a position is about the request there. -/
  line : ∀ position post, posts[position]? = some post → ∃ (handler : Nat) (place : String),
    lines[position]? =
        some (stepLine (first + position) post.operation.name handler post.body) ∧
      post.url = place ++ "/call/" ++ toString handler ++ "/"

/-- A line about a call begins with blanks, so it is no heading and not empty. -/
theorem indented_of_mem_previewCalls
    {first : Nat}
    {calls : List Call}
    {line : String}
    (member : line ∈ previewCalls first calls) :
    ∃ rest, line.toList = ' ' :: rest := by
  induction calls generalizing first with
  | nil => simp [previewCalls] at member
  | cons call calls inductionHypothesis =>
      rcases List.mem_cons.mp member with rfl | later
      · simp [previewCall]
      · exact inductionHypothesis later

theorem ne_empty_of_mem_previewCalls
    {first : Nat}
    {calls : List Call}
    {line : String}
    (member : line ∈ previewCalls first calls) :
    line ≠ "" := by
  rintro rfl
  obtain ⟨rest, indented⟩ := indented_of_mem_previewCalls member
  simp at indented

theorem ne_heading_of_mem_previewCalls
    {first : Nat}
    {calls : List Call}
    {line : String}
    (member : line ∈ previewCalls first calls)
    (target : Phy) :
    line ≠ heading target := by
  rintro rfl
  obtain ⟨rest, indented⟩ := indented_of_mem_previewCalls member
  simp [heading] at indented

/-- Lines behind the first heading of a PHY that end at an empty line or with the output. -/
theorem linesAbout_append
    {target : Phy}
    {before lines rest : List String}
    (unheaded : ∀ line ∈ before, line ≠ heading target)
    (filled : ∀ line ∈ lines, line ≠ "")
    (ended : rest.takeWhile (· ≠ "") = []) :
    linesAbout (before ++ heading target :: (lines ++ rest)) target = lines := by
  rw [linesAbout, List.dropWhile_append_of_pos (by simpa using unheaded),
    List.dropWhile_cons_of_neg (by simp), List.drop_succ_cons, List.drop_zero,
    List.takeWhile_append_of_pos (by simpa using filled), ended, List.append_nil]

/-- The lines about a PHY are those of the calls that put it on air. -/
theorem linesAbout_preview (profile : Profile) (target : Phy) :
    linesAbout profile.preview target = previewCalls 1 (profile.state.plan target) := by
  have filled : ∀ phy, ∀ line ∈ previewCalls 1 (profile.state.plan phy), line ≠ "" :=
    fun phy line => ne_empty_of_mem_previewCalls
  have title : ∀ phy, "tuning mode: " ++ profile.mode.name ≠ heading phy := by
    intro phy
    cases profile.mode <;> cases phy <;> decide
  have blank : ∀ phy, "" ≠ heading phy := by
    intro phy
    cases phy <;> decide
  cases target with
  | phy0 =>
      have output : profile.preview =
          ["tuning mode: " ++ profile.mode.name, ""] ++ heading .phy0 ::
            (previewCalls 1 (profile.state.plan .phy0) ++
              "" :: heading .phy1 :: previewCalls 1 (profile.state.plan .phy1)) := by
        simp [preview, Phy.all, previewPhy, heading]
      rw [output]
      exact linesAbout_append (by simp [title, blank]) (filled .phy0) (by simp)
  | phy1 =>
      have output : profile.preview =
          (["tuning mode: " ++ profile.mode.name, "", heading .phy0] ++
              previewCalls 1 (profile.state.plan .phy0) ++ [""]) ++ heading .phy1 ::
            (previewCalls 1 (profile.state.plan .phy1) ++ []) := by
        simp [preview, Phy.all, previewPhy, heading]
      rw [output]
      refine linesAbout_append ?_ (filled .phy1) rfl
      intro line member
      simp only [List.mem_append, List.mem_cons, List.not_mem_nil, or_false] at member
      rcases member with (((rfl | rfl | rfl) | called) | rfl)
      · exact title .phy1
      · exact blank .phy1
      · decide
      · exact ne_heading_of_mem_previewCalls called .phy1
      · exact blank .phy1

/-- The lines about calls describe the requests for these calls. -/
theorem describes_previewCalls
    {base : String}
    {resolution : Resolution}
    {calls : List Call}
    {posts : List Post}
    (delivers : (EndpointTable.build base resolution).Delivers calls posts)
    (first : Nat) :
    Describes first (previewCalls first calls) posts := by
  induction delivers generalizing first with
  | nil => exact ⟨rfl, by simp⟩
  | cons delivered rest inductionHypothesis =>
      obtain ⟨length_eq, line⟩ := inductionHypothesis (first + 1)
      refine ⟨by simp [previewCalls, length_eq], ?_⟩
      intro position post found
      cases position with
      | zero =>
          obtain ⟨url, address, rfl⟩ := delivered
          obtain ⟨id, -, rfl⟩ := Option.map_eq_some_iff.mp address
          obtain rfl := Option.some.inj found
          exact ⟨_, _, rfl, callUrl_eq _ _ _⟩
      | succ position =>
          rw [List.getElem?_cons_succ] at found
          obtain ⟨handler, place, printed, address⟩ := line position post found
          refine ⟨handler, place, ?_, address⟩
          rw [previewCalls, List.getElem?_cons_succ, printed, Nat.add_right_comm, Nat.add_assoc]

end Profile

/-! ## Controllers on which a profile was the last configuration -/

namespace Controller

/-- Whether a use is meant to change the parameters, the channels or the tuning mode. -/
def Use.configures : Use → Bool
  | .act (.setParameter _ _ _) | .act (.setChannels _) | .act (.setMode _)
  | .act (.configure _ _ _) | .load _ => true
  | _ => false

section Configurations

variable [Transport τ]

/-- A use that does not configure changes nothing of the state but the active PHY. -/
theorem exists_active_run
    (controller : Controller τ)
    {use : Use}
    (quiet : use.configures = false) :
    ∃ active, (use.run controller).state.state = { controller.state with active } := by
  have effect := use.effect_run controller
  by_cases selects : use.selects = true
  · exact effect.state_of_selects selects
  · refine ⟨controller.state.active, ?_⟩
    by_cases sends : use.sends = true
    · obtain ⟨call, left⟩ := effect.asked_of_sends sends
      rw [left]
      rfl
    · cases use with
      | act action => cases action <;> simp_all [Use.configures, Use.selects, Use.sends]
      | load profile => cases quiet
      | parameters index =>
          cases given : controller.parameters index <;> simp [Use.run, given]
      | plan target => rfl
      | look => rfl

theorem exists_active_afterUses
    (controller : Controller τ)
    {uses : List Use}
    (quiet : ∀ use ∈ uses, use.configures = false) :
    ∃ active, (controller.afterUses uses).state = { controller.state with active } := by
  induction uses generalizing controller with
  | nil => exact ⟨controller.state.active, rfl⟩
  | cons use uses inductionHypothesis =>
      obtain ⟨first, rest⟩ := List.forall_mem_cons.mp quiet
      obtain ⟨active, changed⟩ := exists_active_run controller first
      obtain ⟨last, left⟩ := inductionHypothesis (use.run controller).state rest
      exact ⟨last, by rw [afterUses, left, changed]⟩

/-- Behind a profile that was the last configuration, the plans are those of the profile. -/
theorem plan_of_last_load
    (controller : Controller τ)
    (profile : Profile)
    (earlier : List Use)
    {later : List Use}
    (quiet : ∀ use ∈ later, use.configures = false)
    (target : Phy) :
    (controller.afterUses (earlier ++ .load profile :: later)).state.plan target =
      profile.state.plan target := by
  rw [afterUses_append, afterUses]
  obtain ⟨active, left⟩ := exists_active_afterUses
    ((Use.load profile).run (controller.afterUses earlier)).state quiet
  rw [left]
  rfl

end Configurations

/-- On a controller whose roles all have a block and whose last configuration was a profile, a
selection over a transport that accepts every call makes the calls that the text of the profile's
preview shows in its lines about the PHY. -/
theorem selection_sends_preview
    [Transport σ]
    (profile : Profile)
    (base : String)
    (resolution : Resolution)
    (transport : Recorded σ)
    (earlier later : List Use)
    (complete : resolution.isComplete)
    (quiet : ∀ use ∈ later, use.configures = false)
    (reached : Controller (Recorded σ))
    (reaches : reached =
      (fresh base resolution transport).afterUses (earlier ++ .load profile :: later))
    (accepting : Transport.Accepting reached.transport)
    (selection : Action)
    (target : Phy)
    (targets : selection.target? reached.state = some target) :
    (selection.run reached).outcome = .done () ∧
      ∃ sent, (selection.run reached).state.posted = reached.posted ++ sent ∧
        Profile.Describes 1
          (Profile.linesAbout (outputLines profile.previewText) target) sent := by
  have settled : reached.endpoints = .build base resolution := by
    rw [reaches, endpoints_afterUses]
    rfl
  have plan : reached.state.plan target = profile.state.plan target := by
    rw [reaches]
    exact plan_of_last_load _ profile earlier quiet target
  have addressed : ∀ call ∈ profile.state.plan target,
      (reached.endpoints.url? call.operation).isSome := by
    intro call _
    rw [settled, EndpointTable.isSome_url?_build_iff]
    exact resolution.isComplete_iff.mp complete call.operation.role
  obtain ⟨outcome, state⟩ := Action.run_eq_selectPhy targets
  obtain ⟨succeeds, left⟩ := (accepts_of_accepting accepting (plan ▸ addressed)).selectPhy
  refine ⟨outcome.trans succeeds, reached.endpoints.posts (profile.state.plan target), ?_, ?_⟩
  · rw [state, left, plan]
    exact posted_asked reached _
  · rw [Profile.outputLines_previewText, Profile.linesAbout_preview]
    have delivers := EndpointTable.delivers_posts addressed
    rw [settled] at delivers ⊢
    exact Profile.describes_previewCalls delivers 1

/-- A profile with another receive gain. -/
def turnedDown : Profile :=
  { Profile.initial with
    overrides := .ofFn fun _ => Overrides.none.set .rxGain (some (.ofNat 40)) }

/-- A controller that is refused the second call of a selection, tunes directly, and then loads
the profile and sends a frequency. -/
def wavering : Controller (Recorded Scripted) :=
  (fresh "http://flowgraph/" ⟨.ofFn fun role => some role.key⟩
      (.fresh ⟨.error .crash, ⟨[(2, .status 500)], []⟩, 0⟩)).afterUses
    ([.act (.selectPhy .phy1), .act (.setMode .direct)] ++
      .load turnedDown :: [.act (.send .rxFrequency (.ofNat 2450000000) 0)])

/-- On it a switch makes the calls that the preview of the profile prints about PHY 1. -/
theorem selection_sends_preview_wavering :
    (Action.switch.run wavering).outcome = .done () ∧
      ∃ sent, (Action.switch.run wavering).state.posted = wavering.posted ++ sent ∧
        Profile.Describes 1
          (Profile.linesAbout (outputLines turnedDown.previewText) .phy1) sent := by
  have accepting : Transport.Accepting wavering.transport := by
    apply Recorded.always
    -- Behind the second call no fault is left.
    refine Transport.always_of_invariant
      (fun scripted : Scripted => scripted.rules.byNumber = [(2, .status 500)] ∧
        scripted.rules.byOperation = [] ∧ 2 ≤ scripted.made)
      ?_ (by decide +kernel)
    rintro scripted url call ⟨byNumber, byOperation, passed⟩
    have later : (scripted.made + 1 == 2) = false := by
      rw [beq_eq_false_iff_ne]
      omega
    refine ⟨?_, byNumber, byOperation, Nat.le_succ_of_le passed⟩
    simp [Transport.call, Scripted.call, FaultRules.fault?, byNumber, byOperation,
      List.lookup_cons, later]
  exact selection_sends_preview turnedDown "http://flowgraph/" _ _ _ _ (by decide) (by decide)
    wavering rfl accepting .switch .phy1 (by decide +kernel)

end Controller
end DualPhy
