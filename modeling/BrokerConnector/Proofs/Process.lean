import BrokerConnector.Proofs.Decoding
import BrokerConnector.Proofs.Gauge
import Mathlib.Algebra.Ring.Nat
import Mathlib.Data.List.DropRight

/-!
# The marks of a process

Readers and others own the marks of a process. A mark is made empty or read from bytes, its owner
changes it and finalizes it, it may pass to another owner, and it is dropped at last. All of them
share one journal. In every run of such deeds, the gauge is the sum of the counts of the marks that
are still there (`Process.exact_run`): a mark that passes takes its count along, and a mark that is
dropped or overwritten gives up what remains of it.

What was done to a mark is kept beside it, so that it can be said of a mark that nothing was added
to it since it was released.
-/

namespace BrokerConnector

open BrokerConnector.Action

/-- A mark, with the changes that it underwent since it was made. -/
structure Kept where
  mark : Mark := {}
  past : List Mark.Change := []

namespace Kept

/-- Nothing was added to a mark since its session was given up for the last time, or since it was
made. -/
def Idle (kept : Kept) : Prop :=
  ∀ change ∈ kept.past.rtakeWhile (· ≠ .release), change.isAdd = false

/-- A mark that is idle after one more change was released by it, or was idle before. -/
theorem idle_concat {mark mark' : Mark} {past : List Mark.Change} {change : Mark.Change}
    (h : Idle ⟨mark', past ++ [change]⟩) :
    change = .release ∨ change.isAdd = false ∧ Idle ⟨mark, past⟩ := by
  rw [or_iff_not_imp_left]
  intro hchange
  rw [Idle, List.rtakeWhile_concat_pos _ _ _ (by simpa using hchange)] at h
  refine ⟨h change (List.mem_append_right _ (List.mem_singleton_self _)), ?_⟩
  exact fun other hother => h other (List.mem_append_left _ hother)

/-- A mark counts its entries, and none while it is idle. -/
structure Sound (kept : Kept) : Prop where
  tallied : kept.mark.Tallied
  idle : kept.Idle → kept.mark.tracked = 0

/-- A mark that nobody counted yet is sound. -/
theorem sound_of_detached {mark : Mark} (hsession : mark.session = none)
    (htracked : mark.tracked = 0) : Sound ⟨mark, []⟩ := by
  refine ⟨Mark.tallied_of_uncounted htracked fun hattached => ?_, fun _ => htracked⟩
  rw [Mark.isAttached, hsession] at hattached
  cases hattached

/-- A mark that underwent a change. -/
def change (kept : Kept) (journal : Journal) (change : Mark.Change) : Kept × Journal :=
  (⟨(change.apply kept.mark journal).1, kept.past ++ [change]⟩,
    (change.apply kept.mark journal).2)

/-- A mark that was finalized. -/
def finalize {σ : Type} (kept : Kept) (journal : Journal) (endpoint : Endpoint σ) (env : σ) :
    Kept × Journal :=
  let s := (Mark.finalize endpoint { client := kept.mark, journal := journal, env := env }).2
  ({ kept with mark := s.client }, s.journal)

/-- A change leaves a sound mark. -/
theorem Sound.change {kept : Kept} (h : kept.Sound) (journal : Journal) (next : Mark.Change) :
    (kept.change journal next).1.Sound where
  tallied := next.tallied_apply h.tallied journal
  idle hidle :=
    Mark.Change.tracked_apply_eq_zero journal
      ((idle_concat hidle).imp_right fun hkept => ⟨hkept.1, h.idle hkept.2⟩)

/-- A finalization leaves a sound mark. -/
theorem Sound.finalize {σ : Type} {kept : Kept} (h : kept.Sound) (journal : Journal)
    (endpoint : Endpoint σ) (env : σ) : (kept.finalize journal endpoint env).1.Sound := by
  have hsettles := Mark.settles_finalize endpoint
    { client := kept.mark, journal := journal, env := env }
  refine ⟨hsettles.tallied h.tallied, fun hidle => ?_⟩
  exact Nat.le_zero.1 (h.idle hidle ▸ hsettles.tracked_le)

end Kept

/-- The marks of a process by the positions of their owners, nothing where an owner is gone, and the
journal that all of them share. -/
structure Process where
  owners : List (Option Kept) := []
  journal : Journal := {}

/-- What happens to a mark of a process. -/
inductive Deed (σ : Type) where
  /-- A reader is created with an empty mark. -/
  | create
  /-- A mark is read from bytes. -/
  | decode (bytes : List UInt8)
  /-- The mark of an owner undergoes a change. -/
  | change (owner : Nat) (change : Mark.Change)
  /-- The mark of an owner is finalized, with whatever the surroundings answer. -/
  | finalize (owner : Nat) (endpoint : Endpoint σ) (env : σ)
  /-- An owner gives its mark to another one, or to a new one, and is left with an empty mark. The
  mark that the other one had is dropped. -/
  | pass (owner other : Nat)
  /-- An owner is dropped with its mark. -/
  | drop (owner : Nat)
  /-- Others write to the journal, and leave the gauge alone. -/
  | tell (journal : Journal)

namespace Process

variable {σ : Type}

/-- How many entries the mark of an owner counts. -/
def tracked : Option Kept → Nat
  | some kept => kept.mark.tracked
  | none => 0

/-- How many entries the marks of owners count together. -/
def counted (owners : List (Option Kept)) : Nat :=
  (owners.map tracked).sum

/-- A new owner comes with its mark. -/
def enroll (process : Process) (kept : Kept) : Process :=
  { process with owners := process.owners ++ [some kept] }

/-- The mark of an owner is replaced by what becomes of it. -/
def alter (process : Process) (owner : Nat) (next : Kept → Journal → Kept × Journal) : Process :=
  match process.owners[owner]? with
  | some (some kept) =>
    let (kept, journal) := next kept process.journal
    { owners := process.owners.set owner (some kept), journal := journal }
  | _ => process

/-- An owner is dropped with its mark. -/
def drop (process : Process) (owner : Nat) : Process :=
  match process.owners[owner]? with
  | some (some kept) =>
    { owners := process.owners.set owner none, journal := kept.mark.discard process.journal }
  | _ => process

/-- An owner takes a mark. -/
def take (process : Process) (owner : Nat) (kept : Kept) : Process :=
  if owner < process.owners.length then
    { process.drop owner with owners := (process.drop owner).owners.set owner (some kept) }
  else process.enroll kept

/-- A process after a deed. A deed of an owner that is not there does nothing. -/
def perform (process : Process) : Deed σ → Process
  | .create => process.enroll {}
  | .decode bytes =>
    match Mark.decode bytes with
    | .ok mark => process.enroll ⟨mark, []⟩
    | .error _ => process
  | .change owner change => process.alter owner fun kept journal => kept.change journal change
  | .finalize owner endpoint env =>
    process.alter owner fun kept journal => kept.finalize journal endpoint env
  | .pass owner other =>
    match process.owners[owner]? with
    | some (some kept) =>
      take { process with owners := process.owners.set owner (some {}) } other kept
    | _ => process
  | .drop owner => process.drop owner
  | .tell journal =>
    if journal.gauge = process.journal.gauge then { process with journal := journal } else process

/-- A process after deeds in order. -/
def run (process : Process) (deeds : List (Deed σ)) : Process :=
  deeds.foldl perform process

/-- Replacing one mark changes the sum by what the two marks count. -/
theorem counted_set {owners : List (Option Kept)} {owner : Nat} {old : Option Kept}
    (new : Option Kept) (found : owners[owner]? = some old) :
    counted (owners.set owner new) + tracked old = counted owners + tracked new := by
  induction owners generalizing owner with
  | nil => cases found
  | cons first rest ih =>
    cases owner with
    | zero =>
      obtain rfl : first = old := by simpa using found
      simp only [counted, List.set_cons_zero, List.map_cons, List.sum_cons]
      omega
    | succ owner =>
      have hrest := ih (by simpa using found)
      simp only [counted, List.set_cons_succ, List.map_cons, List.sum_cons] at hrest ⊢
      omega

@[simp]
theorem counted_concat (owners : List (Option Kept)) (new : Option Kept) :
    counted (owners ++ [new]) = counted owners + tracked new := by
  simp [counted]

/-- The gauge is the sum of what all marks count and of what a mark counts that is in nobody's
hands, and all marks are sound. -/
structure Exact (process : Process) (loose : Nat) : Prop where
  gauge : process.journal.gauge = (counted process.owners + loose : Nat)
  sound : ∀ kept, some kept ∈ process.owners → kept.Sound

variable {process : Process} {loose : Nat}

/-- An owner's mark is replaced, and the gauge is moved by as much as the sum. -/
theorem Exact.set (h : process.Exact loose) {owner : Nat} {old new : Option Kept}
    (found : process.owners[owner]? = some old) (sound : ∀ kept, new = some kept → kept.Sound)
    {journal : Journal} {loose' : Nat}
    (hgauge : journal.gauge + tracked old + loose =
      process.journal.gauge + tracked new + loose') :
    Exact { owners := process.owners.set owner new, journal := journal } loose' := by
  constructor
  · have hcounted := counted_set new found
    have hbefore := h.gauge
    change journal.gauge = (counted (process.owners.set owner new) + loose' : Nat)
    omega
  · intro kept hkept
    rcases List.mem_or_eq_of_mem_set hkept with hold | hnew
    · exact h.sound kept hold
    · exact sound kept hnew.symm

/-- A new owner takes a mark that was in nobody's hands. -/
theorem Exact.enroll {kept : Kept} (h : process.Exact kept.mark.tracked) (sound : kept.Sound) :
    (process.enroll kept).Exact 0 := by
  constructor
  · have hbefore := h.gauge
    change process.journal.gauge = (counted (process.owners ++ [some kept]) + 0 : Nat)
    rw [counted_concat, Nat.add_zero]
    exact hbefore
  · intro other hother
    rcases List.mem_append.1 hother with hold | hnew
    · exact h.sound other hold
    · obtain rfl := Option.some.inj (List.mem_singleton.1 hnew)
      exact sound

/-- What becomes of one mark moves the gauge by as much as the mark counts more or less. -/
theorem Exact.alter (h : process.Exact 0) (owner : Nat) {next : Kept → Journal → Kept × Journal}
    (hnext : ∀ kept, kept.Sound → (next kept process.journal).1.Sound ∧
      (next kept process.journal).2.gauge =
        process.journal.gauge + ((next kept process.journal).1.mark.tracked - kept.mark.tracked)) :
    (process.alter owner next).Exact 0 := by
  unfold Process.alter
  split
  · rename_i kept found
    obtain ⟨hsound, hgauge⟩ := hnext kept (h.sound kept (List.mem_of_getElem? found))
    refine h.set found (fun other hother => Option.some.inj hother ▸ hsound) ?_
    change (next kept process.journal).2.gauge + (kept.mark.tracked : Int) + 0 =
      process.journal.gauge + ((next kept process.journal).1.mark.tracked : Int) + 0
    omega
  · exact h

/-- A mark that is dropped gives up what it counts. -/
theorem Exact.drop (h : process.Exact loose) (owner : Nat) : (process.drop owner).Exact loose := by
  unfold Process.drop
  split
  · rename_i kept found
    refine h.set found (fun other hother => by cases hother) ?_
    rw [Mark.discard, Mark.gauge_untrack]
    simp only [tracked]
    omega
  · exact h

/-- An owner that was dropped has no mark. -/
theorem getElem?_drop {owner : Nat} (h : owner < process.owners.length) :
    (process.drop owner).owners[owner]? = some none := by
  unfold Process.drop
  split
  · exact List.getElem?_set_self h
  · rename_i habsent
    rw [List.getElem?_eq_getElem h] at habsent ⊢
    cases hmark : process.owners[owner] with
    | none => rfl
    | some kept => exact (habsent kept (congrArg some hmark)).elim

/-- An owner that takes a mark drops its own. -/
theorem Exact.take {kept : Kept} (h : process.Exact kept.mark.tracked) (sound : kept.Sound)
    (owner : Nat) : (process.take owner kept).Exact 0 := by
  unfold Process.take
  split
  · rename_i hlt
    refine (h.drop owner).set (getElem?_drop hlt)
      (fun other hother => Option.some.inj hother ▸ sound) ?_
    simp only [tracked]
    omega
  · exact h.enroll sound

/-- Every deed keeps the gauge exact. -/
theorem Exact.perform (h : process.Exact 0) (deed : Deed σ) : (process.perform deed).Exact 0 := by
  cases deed with
  | create => exact Exact.enroll h (Kept.sound_of_detached rfl rfl)
  | decode bytes =>
    simp only [Process.perform]
    split
    · rename_i mark hmark
      obtain ⟨⟨-, hsession, htracked⟩, -⟩ := Mark.decode_eq_ok_iff.1 hmark
      have hloose : process.Exact mark.tracked := htracked ▸ h
      exact hloose.enroll (Kept.sound_of_detached hsession htracked)
    · exact h
  | change owner change =>
    change (process.alter owner fun kept journal => kept.change journal change).Exact 0
    refine h.alter owner ?_
    intro kept hkept
    exact ⟨hkept.change process.journal change, change.gauge_apply kept.mark process.journal⟩
  | finalize owner endpoint env =>
    change (process.alter owner fun kept journal => kept.finalize journal endpoint env).Exact 0
    refine h.alter owner ?_
    intro kept hkept
    have hsettles := Mark.settles_finalize endpoint
      { client := kept.mark, journal := process.journal, env := env }
    exact ⟨hkept.finalize process.journal endpoint env, hsettles.gauge⟩
  | pass owner other =>
    simp only [Process.perform]
    split
    · rename_i kept found
      -- Between its two owners the mark is in nobody's hands, and is still counted.
      have hleft : Exact { process with owners := process.owners.set owner (some {}) }
          kept.mark.tracked := by
        refine h.set found (fun empty hempty => Option.some.inj hempty ▸
          Kept.sound_of_detached rfl rfl) ?_
        simp only [tracked]
        omega
      exact hleft.take (h.sound kept (List.mem_of_getElem? found)) other
    · exact h
  | drop owner => exact h.drop owner
  | tell journal =>
    simp only [Process.perform]
    split
    · rename_i hsame
      exact ⟨hsame.trans h.gauge, h.sound⟩
    · exact h

/-- In every run, the gauge is the sum of what the marks of the process count. -/
theorem exact_run (h : process.Exact 0) (deeds : List (Deed σ)) : (process.run deeds).Exact 0 := by
  induction deeds generalizing process with
  | nil => exact h
  | cons deed rest ih => exact ih (h.perform deed)

/-- Where no mark counts anything, the sum is zero. -/
theorem counted_eq_zero {owners : List (Option Kept)}
    (h : ∀ kept, some kept ∈ owners → kept.mark.tracked = 0) : counted owners = 0 := by
  induction owners with
  | nil => rfl
  | cons owner others ih =>
    have hothers : counted others = 0 :=
      ih fun kept hkept => h kept (List.mem_cons_of_mem _ hkept)
    have howner : tracked owner = 0 := by
      cases owner with
      | none => rfl
      | some kept => exact h kept List.mem_cons_self
    change tracked owner + counted others = 0
    rw [howner, hothers]

end Process

/-- The gauge of pending acknowledgments is exact. Whatever becomes of the marks of a process, the
gauge is the sum of what the marks that are there count. Each of them counts at most the entries
that it has, and all of them while it is attached. Once nothing was added to any of them since its
release, the gauge is zero. What readers do to their marks is nothing else: a start makes changes,
an advance adds entries, a finalization is that of the mark, and a close that is not left before its
end releases the mark, however it ends. -/
theorem gauge_counts_pending {α σ : Type} (deeds : List (Deed σ)) :
    let process := Process.run {} deeds
    process.journal.gauge = Process.counted process.owners ∧
    (∀ kept, some kept ∈ process.owners →
      kept.mark.tracked ≤ kept.mark.pending.length ∧
        (kept.mark.isAttached = true → kept.mark.tracked = kept.mark.pending.length)) ∧
    ((∀ kept, some kept ∈ process.owners → kept.Idle) → process.journal.gauge = 0) ∧
    ∀ (endpoint : Endpoint σ) (s : Scene (Reader α) σ),
      (∃ changes, Scene.Undergoes Reader.mark changes s (Reader.start endpoint s).2) ∧
      (∃ changes, (∀ change ∈ changes, change.isAdd = true) ∧
        Scene.Undergoes Reader.mark changes s (Reader.advance endpoint s).2) ∧
      ((Reader.finalize endpoint s).2.client.mark, (Reader.finalize endpoint s).2.journal) =
        ((Mark.finalize endpoint
            { client := s.client.mark, journal := s.journal, env := s.env }).2.client,
          (Mark.finalize endpoint
            { client := s.client.mark, journal := s.journal, env := s.env }).2.journal) ∧
      Leaves (Reader.close endpoint) s
        (fun _ => Scene.Undergoes Reader.mark [.release] s)
        (fun _ => Scene.Undergoes Reader.mark [.release] s)
        (Scene.Undergoes Reader.mark [] s) := by
  intro process
  have hexact : process.Exact 0 := Process.exact_run ⟨rfl, by simp⟩ deeds
  refine ⟨by simpa using hexact.gauge, fun kept hkept => ?_, fun hidle => ?_, ?_⟩
  · have htallied := (hexact.sound kept hkept).tallied
    exact ⟨htallied.bounded, htallied.attached⟩
  · rw [hexact.gauge, Process.counted_eq_zero fun kept hkept =>
      (hexact.sound kept hkept).idle (hidle kept hkept)]
    rfl
  · intro endpoint s
    obtain ⟨changes, -, hstart⟩ := Reader.affects_start endpoint s
    exact ⟨⟨changes, hstart⟩, Reader.affects_advance endpoint s, rfl,
      Reader.leaves_close_mark endpoint s⟩

/-- Surroundings that acknowledge one message and fail at every other. -/
def haltingEndpoint : Endpoint Unit where
  answer
    | .broker (.acknowledge _ id), env =>
      (if id = ⟨"A"⟩ then .done () else .failed (.unavailable "gone"), env)
    | _, env => (.abandoned, env)
  clock _ := 0
  sleep _ env := (env, [])

/-- A mark is finalized in part, passes to another reader and is released there. -/
def passingDeeds : List (Deed Unit) :=
  [.create,
   .change 0 (.attach ⟨0, "session-1-2", .client⟩),
   .change 0 (.add ⟨"A"⟩ 1),
   .change 0 (.add ⟨"B"⟩ 2),
   .finalize 0 haltingEndpoint (),
   .pass 0 1,
   .change 1 .release]

/-- One entry is counted until the release. -/
theorem gauge_counts_pending_passingDeeds :
    (Process.run {} (passingDeeds.take 6)).journal.gauge = 1 ∧
      (Process.run {} passingDeeds).journal.gauge = 0 := by
  refine ⟨by decide +kernel, ?_⟩
  refine (gauge_counts_pending (α := Unit) passingDeeds).2.2.1 fun kept hkept => ?_
  have hall : ∀ owner ∈ (Process.run {} passingDeeds).owners,
      ∀ change ∈ ((owner.map (·.past)).getD []).rtakeWhile (· ≠ .release),
        change.isAdd = false := by decide +kernel
  exact hall (some kept) hkept

end BrokerConnector
