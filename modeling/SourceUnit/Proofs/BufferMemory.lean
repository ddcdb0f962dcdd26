import SourceUnit.Proofs.SourceText

/-! A buffer remembers its lines once they are split. Over any run of requests this shows in no answer:
the last source that was taken decides them all. -/
namespace SourceUnit.Buffer

theorem remember_lines (b : Buffer) : b.remember.lines = b.lines := by
  unfold remember
  cases hlines : b.lines with
  | ok ls => rfl
  | error e => exact hlines

theorem remember_firstLine (b : Buffer) : b.remember.firstLine = b.firstLine := by
  unfold remember
  cases b.lines with
  | ok ls => rfl
  | error e => rfl

/-- The buffer holds a text, and what it remembers are the lines of this text. -/
structure Holds (b : Buffer) (s : List Char) : Prop where
  text : b.text = some s
  remembered : ∀ ls, b.remembered = some ls → ls = Text.lines s

variable {b : Buffer} {s : List Char}

theorem Holds.source_eq (h : b.Holds s) : b.source = .ok s := by
  rw [source, h.text]

theorem Holds.lines_eq (h : b.Holds s) : b.lines = .ok (Text.lines s) := by
  unfold lines
  split
  · rename_i ls hls
    rw [h.remembered ls hls]
  · rw [h.source_eq]

theorem Holds.line_of_lines (h : b.Holds s) (hfirst : b.firstLine = 1) (i : Nat) :
    b.line (i + 1) = .ok (Text.lines s)[i]? := by
  have hle : b.firstLine ≤ (i : Int) + 1 := by omega
  have hindex : ((i : Int) + 1 - b.firstLine).toNat = i := by omega
  unfold line
  rw [h.lines_eq]
  simp only [if_pos hle, hindex]

theorem Holds.isAssigned (h : b.Holds s) : b.isAssigned = true := by
  rw [Buffer.isAssigned, h.text]
  rfl

theorem Holds.remember (h : b.Holds s) : b.remember.Holds s := by
  unfold Buffer.remember
  rw [h.lines_eq]
  exact ⟨h.text, fun ls hls => (Option.some.inj hls).symm⟩

/-! ### Memory does not show -/

/-- What is remembered are the lines of the text. -/
def Consistent (b : Buffer) : Prop :=
  ∀ ls, b.remembered = some ls → ∃ s, b.text = some s ∧ ls = Text.lines s

def forget (b : Buffer) : Buffer := { b with remembered := none }

theorem Consistent.lines_forget (h : b.Consistent) : b.forget.lines = b.lines := by
  cases hmemory : b.remembered with
  | none => simp [lines, forget, source, hmemory]
  | some ls =>
    obtain ⟨s, hs, rfl⟩ := h ls hmemory
    simp [lines, forget, source, hmemory, hs]

theorem Consistent.holds (h : b.Consistent) (htext : b.text = some s) : b.Holds s :=
  ⟨htext, fun ls hls => by simpa [htext] using h ls hls⟩

theorem Consistent.remember (h : b.Consistent) : b.remember.Consistent := by
  intro ls hls
  cases htext : b.text with
  | some s =>
    have hholds := h.holds htext
    exact ⟨s, hholds.remember.text, hholds.remember.remembered ls hls⟩
  | none =>
    have hnone : b.remembered = none := by
      cases hmemory : b.remembered with
      | none => rfl
      | some ls => simpa [htext] using h ls hmemory
    simp [Buffer.remember, lines, source, htext, hnone] at hls

@[simp] theorem forget_remember (b : Buffer) : b.remember.forget = b.forget := by
  unfold remember
  cases b.lines <;> rfl

@[simp] theorem forget_rememberAt (b : Buffer) (n : Int) : (b.rememberAt n).forget = b.forget := by
  unfold rememberAt
  split <;> simp

theorem Consistent.access_forget (h : b.Consistent) (q : Access) :
    (b.forget.access q).1 = (b.access q).1 := by
  have hlines := h.lines_forget
  have hline (n : Int) : b.forget.line n = b.line n := by
    unfold line
    rw [hlines]
    rfl
  cases q with
  | assign raw => cases hraw : normalize b.name raw <;> simp [access, assign, forget, hraw]
  | source => rfl
  | lines => simp only [access, hlines]
  | line n => simp only [access, hline]
  | charColumn n offset => simp only [access, charColumn, hline]
  | isAssigned => rfl

theorem Consistent.access (h : b.Consistent) (q : Access) : (b.access q).2.Consistent := by
  have hat (n : Int) : (b.rememberAt n).Consistent := by
    unfold rememberAt
    split
    · exact h.remember
    · exact h
  cases q with
  | assign raw =>
    cases hraw : normalize b.name raw with
    | error e => simpa [Buffer.access, assign, hraw] using h
    | ok s =>
      simp only [Buffer.access, assign, hraw]
      rintro ls ⟨⟩
  | source => exact h
  | lines => exact h.remember
  | line n => exact hat n
  | charColumn n offset => exact hat n
  | isAssigned => exact h

/-! ### Runs -/

/-- Makes requests one after the other, each noted with its answer. -/
def run (b : Buffer) : List Access → List (Access × Except Error Answer) × Buffer
  | [] => ([], b)
  | q :: qs =>
    let r := b.access q
    let rest := r.2.run qs
    ((q, r.1) :: rest.1, rest.2)

/-- The source of an assignment that succeeded. -/
def taken? : Access × Except Error Answer → Option RawSource
  | (.assign raw, .ok _) => some raw
  | _ => none

/-- The source of the last assignment that succeeded. -/
def standing? (log : List (Access × Except Error Answer)) : Option RawSource :=
  log.reverse.findSome? taken?

theorem standing?_cons (entry : Access × Except Error Answer)
    (log : List (Access × Except Error Answer)) :
    standing? (entry :: log) = (standing? log).or (taken? entry) := by
  simp [standing?, List.findSome?_append]

theorem Consistent.run (h : b.Consistent) (qs : List Access) : (b.run qs).2.Consistent := by
  induction qs generalizing b with
  | nil => exact h
  | cons q qs ih => exact ih (h.access q)

/-- The text after some requests, by the source that they left standing. -/
def textAfter (b : Buffer) : Option RawSource → Option (List Char)
  | none => b.text
  | some raw => (normalize b.name raw).toOption

theorem forget_access (b : Buffer) (q : Access) :
    (b.access q).2.forget = { b.forget with text := b.textAfter (taken? (q, (b.access q).1)) } := by
  cases q with
  | assign raw =>
    cases hraw : normalize b.name raw <;>
      simp [access, assign, hraw, textAfter, taken?, forget, Except.toOption]
  | source => rfl
  | lines => exact b.forget_remember
  | line n => exact b.forget_rememberAt n
  | charColumn n offset => exact b.forget_rememberAt n
  | isAssigned => rfl

theorem access_name (b : Buffer) (q : Access) : (b.access q).2.name = b.name := by
  have hstep := congrArg Buffer.name (b.forget_access q)
  exact hstep

/-- But for what is remembered, a run leaves the buffer with the source left standing. -/
theorem forget_run (b : Buffer) (qs : List Access) :
    (b.run qs).2.forget = { b.forget with text := b.textAfter (standing? (b.run qs).1) } := by
  induction qs generalizing b with
  | nil => rfl
  | cons q qs ih =>
    have hstep := b.forget_access q
    have hname := b.access_name q
    have htext : (b.access q).2.text = b.textAfter (taken? (q, (b.access q).1)) :=
      congrArg Buffer.text hstep
    have hrun : (b.run (q :: qs)).2 = ((b.access q).2.run qs).2 := rfl
    have hlog : (b.run (q :: qs)).1 = (q, (b.access q).1) :: ((b.access q).2.run qs).1 := rfl
    rw [hrun, hlog, ih, hstep, standing?_cons]
    cases standing? ((b.access q).2.run qs).1 with
    | none => simp [textAfter, htext]
    | some raw => simp [textAfter, hname]

theorem exists_normalize_of_mem_run {raw : RawSource} {answer : Answer} {qs : List Access}
    (h : (.assign raw, .ok answer) ∈ (b.run qs).1) : ∃ s, normalize b.name raw = .ok s := by
  induction qs generalizing b with
  | nil => cases h
  | cons q qs ih =>
    rcases List.mem_cons.mp h with hhead | htail
    · obtain ⟨rfl, hanswer⟩ := Prod.mk.inj hhead
      cases hraw : normalize b.name raw with
      | ok s => exact ⟨s, rfl⟩
      | error e => simp [access, assign, hraw] at hanswer
    · rw [← b.access_name q]
      exact ih htail

theorem exists_normalize_of_standing {raw : RawSource} {qs : List Access}
    (h : standing? (b.run qs).1 = some raw) : ∃ s, normalize b.name raw = .ok s := by
  obtain ⟨⟨q, answer⟩, hmem, htaken⟩ := List.exists_of_findSome?_eq_some h
  unfold taken? at htaken
  split at htaken
  · cases htaken
    rename_i heq
    obtain ⟨rfl, rfl⟩ := Prod.mk.inj heq
    exact exists_normalize_of_mem_run (List.mem_reverse.mp hmem)
  · cases htaken

/-- A new buffer that is assigned a source once, or never. -/
def assignedOnce (name : String) (firstLine : Int) (source : Option RawSource) : Buffer :=
  (({ name, firstLine } : Buffer).run (source.toList.map .assign)).2

theorem assignedOnce_eq (name : String) (firstLine : Int) {source : Option RawSource}
    (h : ∀ raw, source = some raw → ∃ s, normalize name raw = .ok s) :
    assignedOnce name firstLine source =
      { name, firstLine, text := ({ name, firstLine } : Buffer).textAfter source } := by
  cases source with
  | none => rfl
  | some raw =>
    obtain ⟨s, hs⟩ := h raw rfl
    simp [assignedOnce, run, access, assign, hs, textAfter, Except.toOption]

theorem access_assign_done_iff (b : Buffer) (raw : RawSource) :
    (b.access (.assign raw)).1 = .ok .done ↔ ∃ s, raw.Spells s := by
  constructor
  · intro h
    cases hraw : normalize b.name raw with
    | error e => simp [access, assign, hraw] at h
    | ok text =>
      obtain ⟨s, hs, -⟩ := exists_spelled_of_normalize hraw
      exact ⟨s, hs⟩
  · rintro ⟨s, hs⟩
    simp [access, assign, normalize_of_spells b.name hs]

theorem access_assign_of_error {raw : RawSource} {e : Error}
    (h : (b.access (.assign raw)).1 = .error e) : (b.access (.assign raw)).2 = b := by
  cases hraw : normalize b.name raw with
  | ok s => simp [access, assign, hraw] at h
  | error e => simp [access, assign, hraw]

/-- After any requests a new buffer answers as if it had been given nothing but the last source that
was taken, and as one that was given nothing if none was. A source is taken exactly if it is a text.
One that is refused shows in no later answer, whatever was remembered. -/
theorem answers_as_assignedOnce (name : String) (firstLine : Int) (past : List Access) :
    let fresh : Buffer := { name, firstLine }
    let log := (fresh.run past).1
    let b := (fresh.run past).2
    (∀ q, (b.access q).1 = ((assignedOnce name firstLine (standing? log)).access q).1) ∧
    (∀ raw, (b.access (.assign raw)).1 = .ok .done ↔ ∃ s, raw.Spells s) ∧
    (∀ raw e, (b.access (.assign raw)).1 = .error e →
      ∀ later, ((b.access (.assign raw)).2.run later).1 = (b.run later).1) ∧
    match standing? log with
    | none =>
      (b.access .source).1 = .error (.unassigned name) ∧
        (b.access .lines).1 = .error (.unassigned name)
    | some raw => ∃ s, raw.Spells s ∧
      (b.access .source).1 = .ok (.text (dropMark s)) ∧
        (b.access .lines).1 = .ok (.texts (Text.lines (dropMark s))) := by
  intro fresh log b
  have hfresh : fresh.Consistent := fun ls hls => nomatch hls
  have hlast : ∀ raw, standing? log = some raw → ∃ s, normalize name raw = .ok s := by
    intro raw hraw
    exact exists_normalize_of_standing hraw
  have hforget : b.forget = assignedOnce name firstLine (standing? log) := by
    rw [assignedOnce_eq name firstLine hlast]
    exact fresh.forget_run past
  have hanswer (q : Access) :
      (b.access q).1 = ((assignedOnce name firstLine (standing? log)).access q).1 := by
    rw [← hforget]
    exact ((hfresh.run past).access_forget q).symm
  refine ⟨hanswer, b.access_assign_done_iff, ?_, ?_⟩
  · intro raw e he later
    rw [access_assign_of_error he]
  · rw [hanswer, hanswer, assignedOnce_eq name firstLine hlast]
    cases hstanding : standing? log with
    | none => exact ⟨rfl, rfl⟩
    | some raw =>
      obtain ⟨text, htext⟩ := hlast raw hstanding
      obtain ⟨s, hs, rfl⟩ := exists_spelled_of_normalize htext
      refine ⟨s, hs, ?_, ?_⟩ <;>
        simp [access, source, lines, textAfter, htext, Except.toOption, Except.map]

/-- A lone surrogate is refused after the lines have been split, and changes no answer. -/
theorem answers_as_assignedOnce_of_refused :
    let text : RawSource := .text (['a', '\r', 'b'].map CodePoint.ofChar)
    let lone : RawSource := .text [⟨0xD800, by decide⟩]
    let fresh : Buffer := { name := "m", firstLine := 0 }
    let b := (fresh.run [.line (-1), .source, .assign text, .lines, .assign lone, .source]).2
    let later : List Access := [.line 1, .assign text, .lines]
    (b.access (.assign lone)).1 = .error (.unencodable "m" 0) ∧
      ((b.access (.assign lone)).2.run later).1 = (b.run later).1 ∧
      (b.access (.line 1)).1 = ((assignedOnce "m" 0 (some text)).access (.line 1)).1 := by
  intro text lone fresh b later
  obtain ⟨hanswer, -, hrefused, -⟩ := answers_as_assignedOnce "m" 0
    [.line (-1), .source, .assign text, .lines, .assign lone, .source]
  have herror : (b.access (.assign lone)).1 = .error (.unencodable "m" 0) := rfl
  exact ⟨herror, hrefused lone _ herror later, hanswer (.line 1)⟩

end SourceUnit.Buffer
