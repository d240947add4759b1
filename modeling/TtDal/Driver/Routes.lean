import TtDal.Platform.Thread
import Mathlib.Order.Nat

/-!
# Where the mappings of a process lead

The driver grants windows to open file descriptions and programs them on request. A mapping shows
the window at its offset, whatever that window is programmed for at the time of an access. A
description is open while a descriptor or a mapping refers to it, and the windows of one that is
not open may go back to the pool.

Descriptions are numbered in the order they were opened. A mapping records for whom it was made,
which restricts nothing.
-/

namespace TtDal.Driver

open Effect Platform

/-- A granted window. -/
structure Target where
  /-- The description it was granted to. -/
  owner : ℕ
  /-- The configuration it was last given. -/
  config : Option NocTlbConfig

/-- A live mapping of a window. -/
structure Route where
  len : ℕ
  /-- For whom it was made. -/
  maker : ℕ
  /-- The description it was made through. -/
  owner : ℕ
  /-- The window it shows. -/
  id : ℕ

structure Routes where
  descriptors : ℤ → Option ℕ
  opens : ℕ
  targets : ℕ → Option Target
  mappings : ℕ → Option Route

namespace Routes

def Open (r : Routes) (description : ℕ) : Prop :=
  (∃ fd, r.descriptors fd = some description) ∨
    ∃ start route, r.mappings start = some route ∧ route.owner = description

/-- The window is granted to the description. -/
def Owns (r : Routes) (description id : ℕ) : Prop :=
  ∃ target, r.targets id = some target ∧ target.owner = description

def opened (r : Routes) (fd : ℤ) : Routes :=
  { r with descriptors := Function.update r.descriptors fd (some r.opens), opens := r.opens + 1 }

def closed (r : Routes) (fd : ℤ) : Routes :=
  { r with descriptors := Function.update r.descriptors fd none }

def programmed (r : Routes) (id : ℕ) (target : Target) (config : Option NocTlbConfig) : Routes :=
  { r with targets := Function.update r.targets id (some { target with config := config }) }

def granted (r : Routes) (id description : ℕ) : Routes :=
  { r with targets := Function.update r.targets id (some { owner := description, config := none }) }

def released (r : Routes) (id : ℕ) : Routes :=
  { r with targets := Function.update r.targets id none }

def mapped (r : Routes) (start : ℕ) (route : Route) : Routes :=
  { r with mappings := Function.update r.mappings start (some route) }

def unmapped (r : Routes) (start : ℕ) : Routes :=
  { r with mappings := Function.update r.mappings start none }

/-- Windows of descriptions that are not open may have gone back to the pool. -/
structure Returns (r r' : Routes) : Prop where
  descriptors : r'.descriptors = r.descriptors
  opens : r'.opens = r.opens
  mappings : r'.mappings = r.mappings
  targets : ∀ id, r'.targets id = r.targets id ∨ r'.targets id = none ∧
    ∃ target, r.targets id = some target ∧ ¬r.Open target.owner

/-- The range is a whole mapping that was made for the one who asks. -/
def Whole (r : Routes) (maker start len : ℕ) : Prop :=
  ∃ route, r.mappings start = some route ∧ route.maker = maker ∧ route.len = len

/-- No mapping overlaps the range. -/
def Vacant (r : Routes) (start len : ℕ) : Prop :=
  r.mappings start = none ∧ ∀ start' route, r.mappings start' = some route →
    start + len ≤ start' ∨ start' + route.len ≤ start

/-- Every request may fail. The offset of a mapping tells its window. A failing configuration may
leave the window programmed in any way, and the other failing requests have no effect. What
unmapping may do to anything but a whole mapping is left open, because it is never asked for. -/
def answers (decode : ℕ → ℕ) (maker : ℕ) : (op : Syscall) → Routes → op.Answer → Routes → Prop
  | .openFile _ _, r, .ok fd _, r' => r.descriptors fd = none ∧ r' = r.opened fd
  | .openFile _ _, r, .fail _, r' => r' = r
  | .close fd, r, _, r' => (r.closed fd).Returns r'
  | .allocateTlb fd _, r, .ok out _, r' =>
    r.targets out.id = none ∧ decode out.mmapOffsetUc = out.id ∧
      decode out.mmapOffsetWc = out.id ∧
      ∃ description, r.descriptors fd = some description ∧ r' = r.granted out.id description
  | .allocateTlb _ _, r, .fail _, r' => r' = r
  | .mmap len fd offset, r, .ok start _, r' =>
    start ≠ NULL ∧ r.Vacant start len ∧ ∃ description, r.descriptors fd = some description ∧
      r.Owns description (decode offset) ∧
      r' = r.mapped start
        { len := len, maker := maker, owner := description, id := decode offset }
  | .mmap _ _ _, r, .fail _, r' => r' = r
  | .munmap start len, r, .ok _ _, r' => r.Whole maker start len → (r.unmapped start).Returns r'
  | .munmap start len, r, .fail _, r' => r.Whole maker start len → r' = r
  | .freeTlb fd id, r, .ok _ _, r' =>
    ∃ target, r.targets id = some target ∧ r.descriptors fd = some target.owner ∧
      r' = r.released id
  | .freeTlb _ _, r, .fail _, r' => r' = r
  | .configureTlb fd id config, r, .ok _ _, r' =>
    ∃ target, r.targets id = some target ∧ r.descriptors fd = some target.owner ∧
      r' = r.programmed id target (some config)
  | .configureTlb fd id _, r, .fail _, r' => r' = r ∨
    ∃ target config, r.targets id = some target ∧ r.descriptors fd = some target.owner ∧
      r' = r.programmed id target config
  | _, r, _, r' => r' = r

/-- The kernel and the driver, as they serve one handle. -/
def contract (decode : ℕ → ℕ) (maker : ℕ) : Contract Sys Routes where
  answers := answers decode maker
  permits _ _ := True
  tolerates _ := True

/-! ## What a request leaves alone -/

/-- Only descriptions that were opened are referred to, and nothing is mapped at the null
address. -/
structure WellFormed (r : Routes) : Prop where
  descriptors : ∀ fd description, r.descriptors fd = some description → description < r.opens
  mappings : ∀ start route, r.mappings start = some route → start ≠ NULL ∧ route.owner < r.opens
  targets : ∀ id target, r.targets id = some target → target.owner < r.opens

/-- Everything is unchanged but the mappings of one handle, and one window if it belongs to the
description that is reached. What is opened is new. -/
structure Frame (name : ℕ) (reach : Option ℕ) (id : ℕ) (r r' : Routes) : Prop where
  opens : r.opens ≤ r'.opens
  shrinks : ∀ description, description < r.opens → r'.Open description → r.Open description
  mappings : ∀ start route, route.maker ≠ name →
    (r'.mappings start = some route ↔ r.mappings start = some route)
  targets : ∀ id' target, r.targets id' = some target → target.owner < r.opens →
    r'.Open target.owner → (id' ≠ id ∨ reach ≠ some target.owner) → r'.targets id' = some target
  wellFormed : r.WellFormed → r'.WellFormed

section Frame

variable {name : ℕ} {reach : Option ℕ} {id id' : ℕ} {r r' r'' : Routes} {fd : ℤ} {start : ℕ}
  {route : Route} {target : Target} {description : ℕ}

theorem Frame.refl (name : ℕ) (reach : Option ℕ) (id : ℕ) (r : Routes) :
    Frame name reach id r r where
  opens := Nat.le_refl _
  shrinks _ _ h := h
  mappings _ _ _ := Iff.rfl
  targets _ _ h _ _ _ := h
  wellFormed h := h

theorem Frame.trans (h : Frame name reach id r r') (h' : Frame name reach id r' r'') :
    Frame name reach id r r'' where
  opens := h.opens.trans h'.opens
  shrinks description hold hopen :=
    h.shrinks description hold (h'.shrinks description (hold.trans_le h.opens) hopen)
  mappings start route hmaker :=
    (h'.mappings start route hmaker).trans (h.mappings start route hmaker)
  targets id' target htarget hold hopen hother := by
    have hold' := hold.trans_le h.opens
    have hmiddle := h.targets id' target htarget hold (h'.shrinks _ hold' hopen) hother
    exact h'.targets id' target hmiddle hold' hopen hother
  wellFormed hr := h'.wellFormed (h.wellFormed hr)

/-- Only the references matter for what is open. -/
theorem Open.congr (h : r'.Open description) (hdescriptors : r'.descriptors = r.descriptors)
    (hmappings : r'.mappings = r.mappings) : r.Open description := by
  unfold Open at h ⊢
  rwa [hdescriptors, hmappings] at h

/-- A reference after one was set is that one, or was there before. -/
theorem eq_or_eq_some_of_update_some {α β : Type} [DecidableEq α] {f : α → Option β} {a a' : α}
    {b b' : β} (h : Function.update f a (some b) a' = some b') :
    a' = a ∧ b' = b ∨ a' ≠ a ∧ f a' = some b' := by
  by_cases heq : a' = a
  · subst heq
    rw [Function.update_self] at h
    exact .inl ⟨rfl, (Option.some.inj h).symm⟩
  · rw [Function.update_of_ne heq] at h
    exact .inr ⟨heq, h⟩

/-- A reference that is left after one was dropped was there before. -/
theorem eq_some_of_update_none {α β : Type} [DecidableEq α] {f : α → Option β} {a a' : α} {b : β}
    (h : Function.update f a none a' = some b) : f a' = some b := by
  by_cases heq : a' = a
  · simp [heq] at h
  · rwa [Function.update_of_ne heq] at h

theorem Open.of_mapped (hopen : ∃ fd, r.descriptors fd = some route.owner)
    (h : (r.mapped start route).Open description) : r.Open description := by
  rcases h with hfd | ⟨start', route', hroute, rfl⟩
  · exact .inl hfd
  · rcases eq_or_eq_some_of_update_some hroute with ⟨-, rfl⟩ | ⟨-, hroute⟩
    · exact .inl hopen
    · exact .inr ⟨start', route', hroute, rfl⟩

theorem Open.of_unmapped (h : (r.unmapped start).Open description) : r.Open description := by
  rcases h with hfd | ⟨start', route', hroute, howner⟩
  · exact .inl hfd
  · exact .inr ⟨start', route', eq_some_of_update_none hroute, howner⟩

theorem Frame.of_returns (h : r.Returns r') : Frame name reach id r r' where
  opens := h.opens.ge
  shrinks _ _ hopen := hopen.congr h.descriptors h.mappings
  mappings start route _ := by rw [h.mappings]
  targets id' target htarget _ hopen _ := by
    rcases h.targets id' with hsame | ⟨-, target', htarget', hclosed⟩
    · exact hsame.trans htarget
    · obtain rfl := Option.some.inj (htarget.symm.trans htarget')
      exact absurd (hopen.congr h.descriptors h.mappings) hclosed
  wellFormed hr := by
    constructor
    · intro fd description hfd
      rw [h.descriptors] at hfd
      exact h.opens ▸ hr.descriptors fd description hfd
    · intro start route hstart
      rw [h.mappings] at hstart
      exact h.opens ▸ hr.mappings start route hstart
    · intro id target htarget
      rcases h.targets id with hsame | ⟨hnone, -⟩
      · exact h.opens ▸ hr.targets id target (hsame.symm.trans htarget)
      · cases hnone.symm.trans htarget

theorem Frame.opened : Frame name reach id r (r.opened fd) where
  opens := Nat.le_succ _
  shrinks description hold hopen := by
    rcases hopen with ⟨fd', hfd⟩ | hmapping
    · rcases eq_or_eq_some_of_update_some hfd with ⟨-, hnew⟩ | ⟨-, hfd⟩
      · exact absurd hnew (Nat.ne_of_lt hold)
      · exact .inl ⟨fd', hfd⟩
    · exact .inr hmapping
  mappings _ _ _ := Iff.rfl
  targets _ _ htarget _ _ _ := htarget
  wellFormed hr := by
    constructor
    · intro fd' description hfd
      rcases eq_or_eq_some_of_update_some hfd with ⟨-, rfl⟩ | ⟨-, hfd⟩
      · exact Nat.lt_succ_self _
      · exact Nat.lt_succ_of_lt (hr.descriptors fd' description hfd)
    · intro start route hstart
      obtain ⟨hnull, hold⟩ := hr.mappings start route hstart
      exact ⟨hnull, Nat.lt_succ_of_lt hold⟩
    · exact fun id target htarget ↦ Nat.lt_succ_of_lt (hr.targets id target htarget)

theorem Frame.closed : Frame name reach id r (r.closed fd) where
  opens := Nat.le_refl _
  shrinks description _ hopen := by
    rcases hopen with ⟨fd', hfd⟩ | hmapping
    · exact .inl ⟨fd', eq_some_of_update_none hfd⟩
    · exact .inr hmapping
  mappings _ _ _ := Iff.rfl
  targets _ _ htarget _ _ _ := htarget
  wellFormed hr := by
    constructor
    · exact fun fd' description hfd ↦ hr.descriptors fd' description (eq_some_of_update_none hfd)
    · exact hr.mappings
    · exact hr.targets

theorem Frame.mapped (hvacant : r.mappings start = none) (hstart : start ≠ NULL)
    (hmaker : route.maker = name) (hopen : ∃ fd, r.descriptors fd = some route.owner) :
    Frame name reach id r (r.mapped start route) where
  opens := Nat.le_refl _
  shrinks _ _ hother := hother.of_mapped hopen
  mappings start' route' hmaker' := by
    by_cases heq : start' = start
    · subst heq
      simp only [Routes.mapped, Function.update_self, hvacant]
      refine iff_of_false (fun hroute ↦ ?_) nofun
      exact hmaker' (Option.some.inj hroute ▸ hmaker)
    · simp only [Routes.mapped, Function.update_of_ne heq]
  targets _ _ htarget _ _ _ := htarget
  wellFormed hr := by
    constructor
    · exact hr.descriptors
    · intro start' route' hroute
      rcases eq_or_eq_some_of_update_some hroute with ⟨rfl, rfl⟩ | ⟨-, hroute⟩
      · obtain ⟨fd, hfd⟩ := hopen
        exact ⟨hstart, hr.descriptors fd _ hfd⟩
      · exact hr.mappings start' route' hroute
    · exact hr.targets

theorem Frame.unmapped (hlive : r.mappings start = some route) (hmaker : route.maker = name) :
    Frame name reach id r (r.unmapped start) where
  opens := Nat.le_refl _
  shrinks _ _ hopen := hopen.of_unmapped
  mappings start' route' hmaker' := by
    by_cases heq : start' = start
    · subst heq
      simp only [Routes.unmapped, Function.update_self, hlive]
      refine iff_of_false nofun fun hroute ↦ ?_
      exact hmaker' (Option.some.inj hroute ▸ hmaker)
    · simp only [Routes.unmapped, Function.update_of_ne heq]
  targets _ _ htarget _ _ _ := htarget
  wellFormed hr := by
    constructor
    · exact hr.descriptors
    · exact fun start' route' hroute ↦ hr.mappings start' route' (eq_some_of_update_none hroute)
    · exact hr.targets

/-- The window of a description may be programmed or freed through the description. -/
theorem Frame.retargeted (htarget : r.targets id = some target) (hreach : reach = some target.owner)
    {entry : Option Target} (hentry : ∀ target', entry = some target' →
      target'.owner = target.owner) :
    Frame name reach id r { r with targets := Function.update r.targets id entry } where
  opens := Nat.le_refl _
  shrinks _ _ h := h
  mappings _ _ _ := Iff.rfl
  targets id' target' htarget' _ _ hother := by
    have hne : id' ≠ id := by
      rintro rfl
      obtain rfl := Option.some.inj (htarget.symm.trans htarget')
      exact hother.elim (fun hid ↦ hid rfl) fun hdescription ↦ hdescription hreach
    exact (Function.update_of_ne hne _ _).trans htarget'
  wellFormed hr := by
    constructor
    · exact hr.descriptors
    · exact hr.mappings
    · intro id' target' htarget'
      by_cases heq : id' = id
      · subst heq
        have hnew : entry = some target' := by simpa using htarget'
        exact hentry target' hnew ▸ hr.targets id' target htarget
      · exact hr.targets id' target' (by simpa [Function.update_of_ne heq] using htarget')

theorem Frame.programmed (htarget : r.targets id = some target)
    (hreach : reach = some target.owner) {config : Option NocTlbConfig} :
    Frame name reach id r (r.programmed id target config) :=
  .retargeted htarget hreach fun _ hnew ↦ Option.some.inj hnew ▸ rfl

theorem Frame.released (htarget : r.targets id = some target)
    (hreach : reach = some target.owner) : Frame name reach id r (r.released id) :=
  .retargeted htarget hreach nofun

theorem Frame.granted (hfree : r.targets id' = none) (hopen : r.descriptors fd = some description) :
    Frame name reach id r (r.granted id' description) where
  opens := Nat.le_refl _
  shrinks _ _ h := h
  mappings _ _ _ := Iff.rfl
  targets other target htarget _ _ _ := by
    have hne : other ≠ id' := by
      rintro rfl
      cases hfree.symm.trans htarget
    exact (Function.update_of_ne hne _ _).trans htarget
  wellFormed hr := by
    constructor
    · exact hr.descriptors
    · exact hr.mappings
    · intro other target htarget
      rcases eq_or_eq_some_of_update_some htarget with ⟨-, rfl⟩ | ⟨-, htarget⟩
      · exact hr.descriptors fd description hopen
      · exact hr.targets other target htarget

end Frame

/-! ## What a description keeps -/

/-- No description is newly referred to, and one that stays open keeps its windows. -/
structure Steady (r r' : Routes) : Prop where
  shrinks : ∀ description, r'.Open description → r.Open description
  owns : ∀ description id, r'.Open description → r.Owns description id → r'.Owns description id

section Steady

variable {decode : ℕ → ℕ} {name start len id : ℕ} {r r' r'' : Routes} {route : Route}
  {target : Target}

theorem Steady.refl (r : Routes) : r.Steady r where
  shrinks _ h := h
  owns _ _ _ h := h

theorem Steady.trans (h : r.Steady r') (h' : r'.Steady r'') : r.Steady r'' where
  shrinks description hopen := h.shrinks description (h'.shrinks description hopen)
  owns description id hopen howns :=
    h'.owns description id hopen (h.owns description id (h'.shrinks description hopen) howns)

theorem Steady.of_returns (h : r.Returns r') : r.Steady r' where
  shrinks _ hopen := hopen.congr h.descriptors h.mappings
  owns description id hopen howns := by
    obtain ⟨target, htarget, rfl⟩ := howns
    rcases h.targets id with hsame | ⟨-, target', htarget', hclosed⟩
    · exact ⟨target, hsame.trans htarget, rfl⟩
    · obtain rfl := Option.some.inj (htarget.symm.trans htarget')
      exact absurd (hopen.congr h.descriptors h.mappings) hclosed

theorem Steady.mapped (hopen : ∃ fd, r.descriptors fd = some route.owner) :
    r.Steady (r.mapped start route) where
  shrinks _ hother := hother.of_mapped hopen
  owns _ _ _ howns := howns

theorem Steady.unmapped : r.Steady (r.unmapped start) where
  shrinks _ hopen := hopen.of_unmapped
  owns _ _ _ howns := howns

theorem Steady.programmed (htarget : r.targets id = some target) {config : Option NocTlbConfig} :
    r.Steady (r.programmed id target config) where
  shrinks _ h := h
  owns description id' _ howns := by
    obtain ⟨target', htarget', rfl⟩ := howns
    by_cases heq : id' = id
    · subst heq
      obtain rfl := Option.some.inj (htarget.symm.trans htarget')
      exact ⟨{ target with config := config }, Function.update_self _ _ _, rfl⟩
    · exact ⟨target', (Function.update_of_ne heq _ _).trans htarget', rfl⟩

/-- What comes of unmapping a whole mapping, which may be refused. -/
structure Unmaps (name start : ℕ) (r r' : Routes) : Prop where
  frame : ∀ reach id, Frame name reach id r r'
  steady : r.Steady r'
  descriptors : r'.descriptors = r.descriptors
  others : ∀ start', start' ≠ start → r'.mappings start' = r.mappings start'

theorem Whole.unmaps (h : r.Whole name start len) {reply : Reply Unit}
    (hanswer : (contract decode name).answers (.munmap start len) r reply r') :
    Unmaps name start r r' := by
  cases reply with
  | ok value residue =>
    have hreturns : (r.unmapped start).Returns r' := hanswer h
    obtain ⟨route, hroute, hmaker, -⟩ := h
    exact
      { frame := fun reach id ↦ .trans (.unmapped hroute hmaker) (.of_returns hreturns)
        steady := Steady.unmapped.trans (.of_returns hreturns)
        descriptors := hreturns.descriptors
        others := fun start' hne ↦ by
          rw [hreturns.mappings]
          exact Function.update_of_ne hne _ _ }
  | fail err =>
    obtain rfl : r' = r := hanswer h
    exact ⟨fun _ _ ↦ .refl _ _ _ _, .refl _, rfl, fun _ _ ↦ rfl⟩

end Steady

end Routes

end TtDal.Driver
