import Mathlib.Data.Set.Basic

/-!
# Copies that follow marks

A memory is read through copies of its cells. What a cell is copied from is said by a word, which
may change from outside, and writes to the memory mark the blocks that they change. An update of
some cells copies those whose word is not the one that they were copied with, and those that read a
marked block. Then it clears some marks.

An update may so clear a mark that a cell outside of it would need; from then on the cell is in
doubt, until it is copied because of its word. `Valid` is the invariant, which writes (`Valid.edit`)
and updates (`Valid.update`) keep, and `Valid.copy_update` says that a cell that is not in doubt is
right behind an update.
-/

namespace DSEmu.MarkedCopies

/-- How cells are read from a memory. -/
structure Source (Cell Block Word Memory Value : Type) where
  view : Word → Cell → Memory → Value
  reads : Word → Cell → Set Block
  /-- whether a block is the same in two memories -/
  same : Memory → Memory → Block → Prop
  view_congr : ∀ {w c m m'}, (∀ b ∈ reads w c, same m m' b) → view w c m = view w c m'

/-- The memory with its marks, and the copies. -/
structure State (Cell Block Word Memory Value : Type) where
  memory : Memory
  marks : Set Block
  word : Cell → Word
  copy : Cell → Value
  doubt : Set Cell

variable {Cell Block Word Memory Value : Type} {src : Source Cell Block Word Memory Value}
  {s t : State Cell Block Word Memory Value}

/-- A copy that is not in doubt is right, or reads a marked block. -/
def Valid (src : Source Cell Block Word Memory Value) (s : State Cell Block Word Memory Value) :
    Prop :=
  ∀ c ∉ s.doubt,
    s.copy c = src.view (s.word c) c s.memory ∨ ∃ b ∈ src.reads (s.word c) c, b ∈ s.marks

/-- The memory and the marks change: what is read by a copy and changes is marked. -/
structure Edit (src : Source Cell Block Word Memory Value)
    (s t : State Cell Block Word Memory Value) :
    Prop where
  word : t.word = s.word
  copy : t.copy = s.copy
  doubt : t.doubt = s.doubt
  marks : ∀ c, ∀ b ∈ src.reads (s.word c) c, b ∈ s.marks → b ∈ t.marks
  memory : ∀ c, ∀ b ∈ src.reads (s.word c) c, src.same s.memory t.memory b ∨ b ∈ t.marks

theorem Valid.edit (h : Valid src s) (ht : Edit src s t) : Valid src t := by
  intro c hc
  rw [ht.doubt] at hc
  rw [ht.copy, ht.word]
  by_cases hmarked : ∃ b ∈ src.reads (s.word c) c, b ∈ t.marks
  · exact Or.inr hmarked
  · left
    push Not at hmarked
    have hsame : src.view (s.word c) c s.memory = src.view (s.word c) c t.memory :=
      src.view_congr fun b hb => (ht.memory c b hb).resolve_right (hmarked b hb)
    rw [← hsame]
    refine (h c hc).resolve_right ?_
    rintro ⟨b, hb, hmark⟩
    exact hmarked b hb (ht.marks c b hb hmark)

/-- The cells of `cells`, whose words are `current`, are brought up to date, and the marks of
`cleared` go. -/
structure Update (src : Source Cell Block Word Memory Value) (cells : Set Cell)
    (current : Cell → Word)
    (cleared : Set Block) (s t : State Cell Block Word Memory Value) : Prop where
  memory : t.memory = s.memory
  marks : ∀ b, b ∈ t.marks ↔ b ∈ s.marks ∧ b ∉ cleared
  word : ∀ c, c ∈ cells → t.word c = current c
  copied : ∀ c ∈ cells, (current c ≠ s.word c ∨ ∃ b ∈ src.reads (current c) c, b ∈ s.marks) →
    t.copy c = src.view (current c) c s.memory
  kept : ∀ c ∈ cells, ¬ (current c ≠ s.word c ∨ ∃ b ∈ src.reads (current c) c, b ∈ s.marks) →
    t.copy c = s.copy c
  doubt : ∀ c ∈ cells, c ∈ s.doubt → current c = s.word c → c ∈ t.doubt
  others : ∀ c ∉ cells, t.word c = s.word c ∧ t.copy c = s.copy c
  /-- a mark that another cell would need makes it doubtful -/
  lost : ∀ c ∉ cells, c ∈ s.doubt ∨ (∃ b ∈ src.reads (s.word c) c, b ∈ s.marks ∧ b ∈ cleared) →
    c ∈ t.doubt

variable {cells : Set Cell} {current : Cell → Word} {cleared : Set Block}

/-- Behind an update a cell has the value of its word, unless it is in doubt. -/
theorem Valid.copy_update (h : Valid src s) (ht : Update src cells current cleared s t) {c : Cell}
    (hc : c ∈ cells) (hdoubt : c ∉ t.doubt) : t.copy c = src.view (current c) c t.memory := by
  rw [ht.memory]
  by_cases hcopy : current c ≠ s.word c ∨ ∃ b ∈ src.reads (current c) c, b ∈ s.marks
  · exact ht.copied c hc hcopy
  · rw [ht.kept c hc hcopy]
    push Not at hcopy
    obtain ⟨hword, hunmarked⟩ := hcopy
    have hbefore : c ∉ s.doubt := fun hin => hdoubt (ht.doubt c hc hin hword)
    rw [hword] at hunmarked ⊢
    refine (h c hbefore).resolve_right ?_
    rintro ⟨b, hb, hmark⟩
    exact hunmarked b hb hmark

theorem Valid.update (h : Valid src s) (ht : Update src cells current cleared s t) :
    Valid src t := by
  intro c hdoubt
  by_cases hc : c ∈ cells
  · left
    rw [ht.word c hc]
    exact h.copy_update ht hc hdoubt
  · obtain ⟨hword, hcopy⟩ := ht.others c hc
    have hbefore : c ∉ s.doubt := fun hin => hdoubt (ht.lost c hc (Or.inl hin))
    rw [hword, hcopy, ht.memory]
    rcases h c hbefore with hsame | ⟨b, hb, hmark⟩
    · exact Or.inl hsame
    · have hkept : b ∉ cleared := fun hin => hdoubt (ht.lost c hc (Or.inr ⟨b, hb, hmark, hin⟩))
      exact Or.inr ⟨b, hb, (ht.marks b).mpr ⟨hmark, hkept⟩⟩

end DSEmu.MarkedCopies
