import Mathlib.Data.List.Basic
import Mathlib.Data.List.Nodup

/-!
# A ledger of acknowledged requests

Requests are posted under an identifier, sent in the order of posting, and
answered by a fixed number of acknowledgements that carry the identifier. An
entry is open until it was sent and has all its acknowledgements; open entries
have distinct identifiers, so an acknowledgement names at most one of them.

Everything here is generic in the identifiers and in what an entry carries.

* `send_spec`, `acknowledge_spec` — which entry an operation touches.
* `WellFormed.post`, `.send`, `.acknowledge` — the operations keep the ledger
  well formed.
-/

namespace MarketStreamGateway.Lib

variable {α ι τ : Type*}

/-! ## Updating the first match -/

/-- Apply `f` to the first element that satisfies `p`. -/
def updateFirst (p : α → Bool) (f : α → α) : List α → List α
  | [] => []
  | a :: rest => if p a then f a :: rest else a :: updateFirst p f rest

/-- Where there is a match, the first one is updated and nothing else. -/
theorem updateFirst_spec {p : α → Bool} (f : α → α) {l : List α} (h : ∃ a ∈ l, p a) :
    ∃ before a after, l = before ++ a :: after ∧ p a ∧ (∀ b ∈ before, p b = false) ∧
      updateFirst p f l = before ++ f a :: after := by
  induction l with
  | nil => simp at h
  | cons b rest ih =>
    by_cases hb : p b
    · exact ⟨[], b, rest, rfl, hb, by simp, by simp [updateFirst, hb]⟩
    · -- the first one that satisfies is further back
      obtain ⟨a, ha, hpa⟩ := h
      rcases List.mem_cons.mp ha with rfl | haRest
      · exact absurd hpa hb
      · obtain ⟨before, a', after, hRest, hpa', hNone, hUpdate⟩ := ih ⟨a, haRest, hpa⟩
        refine ⟨b :: before, a', after, by rw [hRest, List.cons_append], hpa', ?_, ?_⟩
        · intro c hc
          rcases List.mem_cons.mp hc with rfl | hc
          · simpa using hb
          · exact hNone c hc
        · simp [updateFirst, hb, hUpdate]

/-- Where there is none, nothing is. -/
theorem updateFirst_of_none {p : α → Bool} (f : α → α) {l : List α} (h : ∀ a ∈ l, p a = false) :
    updateFirst p f l = l := by
  induction l with
  | nil => rfl
  | cons b rest ih =>
    have hb : p b = false := h b List.mem_cons_self
    simp [updateFirst, hb, ih fun a ha => h a (List.mem_cons_of_mem _ ha)]

/-- What `f` leaves alone, updating leaves alone. -/
theorem updateFirst_map {β : Type*} {p : α → Bool} {f : α → α} {g : α → β} (h : ∀ a, g (f a) = g a)
    (l : List α) : (updateFirst p f l).map g = l.map g := by
  induction l with
  | nil => rfl
  | cons a rest ih =>
    rw [updateFirst]
    split
    · rw [List.map_cons, List.map_cons, h]
    · rw [List.map_cons, List.map_cons, ih]

/-- A list with one element singled out. -/
theorem exists_mem_split {P : α → Prop} {before after : List α} {a : α} :
    (∃ x ∈ before ++ a :: after, P x) ↔ P a ∨ ∃ x ∈ before ++ after, P x := by
  simp only [List.mem_append, List.mem_cons, or_and_right, exists_or, exists_eq_left]
  exact or_left_comm

/-! ## Entries -/

/-- One request: how many acknowledgements it expects and has, and whether it
was sent. -/
structure Entry (ι τ : Type*) where
  id : ι
  expected : Nat
  content : τ
  sent : Bool
  acknowledged : Nat

namespace Entry

/-- Sent, with every acknowledgement it expects. -/
def Done (e : Entry ι τ) : Prop := e.sent ∧ e.acknowledged = e.expected

instance (e : Entry ι τ) : Decidable e.Done := inferInstanceAs (Decidable (_ ∧ _))

/-- Sent, with acknowledgements still to come. -/
def awaiting (e : Entry ι τ) : Bool := e.sent && decide (e.acknowledged < e.expected)

/-- Not sent yet, or still waiting. -/
def isOpen (e : Entry ι τ) : Bool := !e.sent || e.awaiting

/-- No entry has more acknowledgements than it expects, or any before it was
sent. -/
def Bounded (e : Entry ι τ) : Prop :=
  e.acknowledged ≤ e.expected ∧ (e.sent = false → e.acknowledged = 0)

/-- An entry that was not acknowledged too often is done when it is no longer open. -/
theorem done_iff_not_isOpen {e : Entry ι τ} (h : e.Bounded) : e.Done ↔ e.isOpen = false := by
  have hLe := h.1
  unfold Done isOpen awaiting
  cases e.sent with
  | false => simp
  | true =>
    simp only [true_and, Bool.not_true, Bool.true_and, Bool.false_or, decide_eq_false_iff_not]
    omega

end Entry

/-! ## The ledger -/

/-- The commands of a connection, oldest first. -/
abbrev Ledger (ι τ : Type*) := List (Entry ι τ)

namespace Ledger

/-- Add a request at the end. -/
def post (l : Ledger ι τ) (id : ι) (expected : Nat) (content : τ) : Ledger ι τ :=
  l ++ [⟨id, expected, content, false, 0⟩]

/-- The oldest unsent request is sent. -/
def send (l : Ledger ι τ) : Ledger ι τ :=
  updateFirst (fun e => !e.sent) (fun e => { e with sent := true }) l

/-- An acknowledgement for `id` arrives. -/
def acknowledge [DecidableEq ι] (l : Ledger ι τ) (id : ι) : Ledger ι τ :=
  updateFirst (fun e => e.awaiting && decide (e.id = id))
    (fun e => { e with acknowledged := e.acknowledged + 1 }) l

/-- Sending and acknowledging change no content. -/
@[simp] theorem send_contents (l : Ledger ι τ) : l.send.map (·.content) = l.map (·.content) := by
  refine updateFirst_map ?_ l
  exact fun _ => rfl

@[simp] theorem acknowledge_contents [DecidableEq ι] (l : Ledger ι τ) (id : ι) :
    (l.acknowledge id).map (·.content) = l.map (·.content) := by
  refine updateFirst_map ?_ l
  exact fun _ => rfl

/-- Open entries have distinct identifiers, and no entry has too many
acknowledgements. -/
structure WellFormed (l : Ledger ι τ) : Prop where
  bounded : ∀ e ∈ l, e.Bounded
  distinct : l.Pairwise fun e e' => e.isOpen → e'.isOpen → e.id ≠ e'.id

/-- An empty ledger is well formed. -/
theorem wellFormed_nil : WellFormed ([] : Ledger ι τ) := ⟨by simp, .nil⟩

/-- The unsent requests, in order. -/
def unsent (l : Ledger ι τ) : List (Entry ι τ) := l.filter fun e => !e.sent

/-- Everything is done exactly when nothing is unsent and nothing is awaited. -/
theorem WellFormed.all_done_iff {l : Ledger ι τ} (h : l.WellFormed) :
    (∀ e ∈ l, e.Done) ↔ l.unsent = [] ∧ ∀ e ∈ l, e.awaiting = false := by
  constructor
  · intro hDone
    refine ⟨?_, fun e he => ?_⟩
    · rw [unsent, List.filter_eq_nil_iff]
      intro e he
      simp [(hDone e he).1]
    · have hOpen := (Entry.done_iff_not_isOpen (h.bounded e he)).mp (hDone e he)
      rw [Entry.isOpen, Bool.or_eq_false_iff] at hOpen
      exact hOpen.2
  · rintro ⟨hUnsent, hAwait⟩ e he
    rw [Entry.done_iff_not_isOpen (h.bounded e he), Entry.isOpen, hAwait e he, Bool.or_false]
    have hSent := List.filter_eq_nil_iff.mp hUnsent e he
    simpa using hSent

/-- A ledger stays well formed when an entry is posted under an id that no open
entry has. -/
theorem WellFormed.post {l : Ledger ι τ} (h : l.WellFormed) {id : ι} (expected : Nat) (content : τ)
    (hFresh : ∀ e ∈ l, e.isOpen → e.id ≠ id) : (l.post id expected content).WellFormed := by
  refine ⟨fun e he => ?_, ?_⟩
  · rcases List.mem_append.mp he with hOld | hNew
    · exact h.bounded e hOld
    · rw [List.mem_singleton.mp hNew]
      exact ⟨Nat.zero_le _, fun _ => rfl⟩
  · refine List.pairwise_append.mpr ⟨h.distinct, List.pairwise_singleton _ _, ?_⟩
    intro e he e' he' hOpen _
    rw [List.mem_singleton.mp he']
    exact hFresh e he hOpen

/-- Replacing an entry by one with the same identifier that is open only if the
old one was keeps the ledger well formed. -/
theorem WellFormed.replace {before after : List (Entry ι τ)} {e e' : Entry ι τ}
    (h : WellFormed (before ++ e :: after)) (hId : e'.id = e.id) (hOpen : e'.isOpen → e.isOpen)
    (hBounded : e'.Bounded) : WellFormed (before ++ e' :: after) := by
  refine ⟨fun x hx => ?_, ?_⟩
  · rcases List.mem_append.mp hx with hBefore | hRest
    · exact h.bounded x (List.mem_append_left _ hBefore)
    · rcases List.mem_cons.mp hRest with rfl | hAfter
      · exact hBounded
      · exact h.bounded x (List.mem_append_right _ (List.mem_cons_of_mem _ hAfter))
  · -- the entry keeps its name and is no more open than it was
    obtain ⟨hBefore, hCons, hCross⟩ := List.pairwise_append.mp h.distinct
    obtain ⟨hHead, hAfter⟩ := List.pairwise_cons.mp hCons
    refine List.pairwise_append.mpr ⟨hBefore, List.pairwise_cons.mpr ⟨?_, hAfter⟩, ?_⟩
    · intro x hx hE' hX
      rw [hId]
      exact hHead x hx (hOpen hE') hX
    · intro x hx y hy hX hY
      rcases List.mem_cons.mp hy with rfl | hy
      · rw [hId]
        exact hCross x hx e List.mem_cons_self hX (hOpen hY)
      · exact hCross x hx y (List.mem_cons_of_mem _ hy) hX hY

/-- An open entry shares its identifier with no other open one. -/
theorem WellFormed.other_id {before after : List (Entry ι τ)} {e x : Entry ι τ}
    (h : WellFormed (before ++ e :: after)) (hOpen : e.isOpen) (hx : x ∈ before ++ after)
    (hxOpen : x.isOpen) : x.id ≠ e.id := by
  obtain ⟨-, hCons, hCross⟩ := List.pairwise_append.mp h.distinct
  rcases List.mem_append.mp hx with hBefore | hAfter
  · exact hCross x hBefore e List.mem_cons_self hxOpen hOpen
  · exact fun hEq => (List.pairwise_cons.mp hCons).1 x hAfter hOpen hxOpen hEq.symm

/-- What sending does: the oldest unsent entry is marked. -/
theorem send_spec {l : Ledger ι τ} {e : Entry ι τ} {rest : List (Entry ι τ)}
    (h : l.unsent = e :: rest) :
    ∃ before after, l = before ++ e :: after ∧ e.sent = false ∧
      l.send = before ++ { e with sent := true } :: after ∧ l.send.unsent = rest := by
  have hMem : e ∈ l.unsent := by rw [h]; exact List.mem_cons_self
  have hExists : ∃ a ∈ l, (!a.sent) = true := ⟨e, List.mem_of_mem_filter hMem, by
    simpa using (List.mem_filter.mp hMem).2⟩
  obtain ⟨before, a, after, hSplit, ha, hNone, hUpdate⟩ :=
    updateFirst_spec (fun e : Entry ι τ => { e with sent := true }) hExists
  have hBefore : before.filter (fun e => !e.sent) = [] :=
    List.filter_eq_nil_iff.mpr fun b hb => by simp [hNone b hb]
  -- the first entry found is the first unsent one
  have hFirst : a :: after.filter (fun e => !e.sent) = e :: rest := by
    rw [← h, unsent, hSplit, List.filter_append, hBefore, List.nil_append, List.filter_cons,
      if_pos ha]
  obtain ⟨rfl, hRest⟩ := List.cons.inj hFirst
  refine ⟨before, after, hSplit, by simpa using ha, hUpdate, ?_⟩
  rw [send, hUpdate, unsent, List.filter_append, hBefore, List.nil_append,
    List.filter_cons_of_neg (by simp), hRest]

/-- What an acknowledgement does: the entry awaiting it is credited. -/
theorem acknowledge_spec [DecidableEq ι] {l : Ledger ι τ} {e : Entry ι τ} (h : l.WellFormed)
    (he : e ∈ l) (hAwait : e.awaiting) :
    ∃ before after, l = before ++ e :: after ∧
      l.acknowledge e.id = before ++ { e with acknowledged := e.acknowledged + 1 } :: after := by
  have hExists : ∃ a ∈ l, (a.awaiting && decide (a.id = e.id)) = true :=
    ⟨e, he, by simp [hAwait]⟩
  obtain ⟨before, a, after, hSplit, ha, -, hUpdate⟩ :=
    updateFirst_spec (fun e : Entry ι τ => { e with acknowledged := e.acknowledged + 1 }) hExists
  simp only [Bool.and_eq_true, decide_eq_true_eq] at ha
  obtain ⟨haAwait, haId⟩ := ha
  have hOpen : ∀ x : Entry ι τ, x.awaiting → x.isOpen := fun x hx => by simp [Entry.isOpen, hx]
  -- open entries with one identifier are one entry
  have hSame : a = e := by
    rw [hSplit] at h
    rw [hSplit] at he
    rcases (exists_mem_split (P := (· = e))).mp ⟨e, he, rfl⟩ with hEq | ⟨x, hx, rfl⟩
    · exact hEq
    · exact absurd haId.symm (h.other_id (hOpen a haAwait) hx (hOpen x hAwait))
  subst hSame
  exact ⟨before, after, hSplit, hUpdate⟩

/-! ## Answers in the order of sending -/

/-- Nothing is sent before what was posted earlier. -/
def SentInOrder (l : Ledger ι τ) : Prop := l.Pairwise fun e e' => e'.sent → e.sent

theorem sentInOrder_nil : SentInOrder ([] : Ledger ι τ) := List.Pairwise.nil

/-- A new entry is behind all others. -/
theorem SentInOrder.post {l : Ledger ι τ} (h : l.SentInOrder) (id : ι) (expected : Nat)
    (content : τ) : (l.post id expected content).SentInOrder := by
  refine List.pairwise_append.mpr ⟨h, List.pairwise_singleton _ _, ?_⟩
  intro e _ e' he' hSent
  rw [List.mem_singleton.mp he'] at hSent
  simp at hSent

/-- Sending takes the entries in their order. -/
theorem SentInOrder.send {l : Ledger ι τ} (h : l.SentInOrder) : l.send.SentInOrder := by
  by_cases hAll : ∀ e ∈ l, (!e.sent) = false
  · rw [Ledger.send, updateFirst_of_none _ hAll]
    exact h
  · have hExists : ∃ e ∈ l, (!e.sent) = true := by simpa using hAll
    obtain ⟨before, a, after, rfl, -, hBefore, hUpdate⟩ :=
      updateFirst_spec (fun e : Entry ι τ => { e with sent := true }) hExists
    obtain ⟨hFirst, hRest, -⟩ := List.pairwise_append.mp h
    rw [Ledger.send, hUpdate]
    refine List.pairwise_append.mpr ⟨hFirst, List.pairwise_cons.mpr ⟨fun _ _ _ => rfl,
      (List.pairwise_cons.mp hRest).2⟩, ?_⟩
    intro e he _ _ _
    simpa using hBefore e he

/-- An answer changes no order. -/
theorem SentInOrder.acknowledge [DecidableEq ι] {l : Ledger ι τ} (h : l.SentInOrder) (id : ι) :
    (l.acknowledge id).SentInOrder := by
  have hMap : ∀ m : Ledger ι τ, m.SentInOrder ↔
      (m.map (·.sent)).Pairwise fun first second => second = true → first = true := by
    intro m
    rw [List.pairwise_map]
    rfl
  have hKept : (l.acknowledge id).map (·.sent) = l.map (·.sent) := by
    refine updateFirst_map ?_ l
    exact fun _ => rfl
  rw [hMap, hKept, ← hMap]
  exact h

/-- The requests that still expect an answer, sent or not. -/
def unanswered (l : Ledger ι τ) : List (Entry ι τ) :=
  l.filter fun e => decide (e.acknowledged < e.expected)

/-- `e` is the oldest request that awaits an answer. -/
def IsNext (l : Ledger ι τ) (e : Entry ι τ) : Prop :=
  ∃ before after, l = before ++ e :: after ∧ e.awaiting ∧ ∀ x ∈ before, x.awaiting = false

/-- With sends in order, the oldest request that awaits an answer is the oldest
one without. -/
theorem SentInOrder.unanswered_eq {before after : List (Entry ι τ)} {e : Entry ι τ}
    (h : SentInOrder (before ++ e :: after)) (hAwait : e.awaiting)
    (hBefore : ∀ x ∈ before, x.awaiting = false) :
    unanswered (before ++ e :: after) = e :: unanswered after ∧
      ∀ x ∈ before, ¬ x.acknowledged < x.expected := by
  have hSent : e.sent = true ∧ e.acknowledged < e.expected := by
    simpa [Entry.awaiting] using hAwait
  have hNone : ∀ x ∈ before, ¬ x.acknowledged < x.expected := by
    intro x hx
    have hxSent : x.sent = true :=
      (List.pairwise_append.mp h).2.2 x hx e List.mem_cons_self hSent.1
    simpa [Entry.awaiting, hxSent] using hBefore x hx
  refine ⟨?_, hNone⟩
  have hFirst : before.filter (fun x => decide (x.acknowledged < x.expected)) = [] :=
    List.filter_eq_nil_iff.mpr fun x hx => by simpa using hNone x hx
  rw [unanswered, List.filter_append, hFirst, List.nil_append,
    List.filter_cons_of_pos (by simpa using hSent.2), ← unanswered]

/-- Crediting the oldest request that awaits an answer. -/
theorem acknowledge_next [DecidableEq ι] {before after : List (Entry ι τ)} {e : Entry ι τ}
    (hAwait : e.awaiting) (hBefore : ∀ x ∈ before, x.awaiting = false) :
    acknowledge (before ++ e :: after) e.id =
      before ++ { e with acknowledged := e.acknowledged + 1 } :: after := by
  induction before with
  | nil => simp [acknowledge, updateFirst, hAwait]
  | cons x before ih =>
    have hFirst : x.awaiting = false := hBefore x List.mem_cons_self
    have hRest := ih fun y hy => hBefore y (List.mem_cons_of_mem _ hy)
    unfold acknowledge at hRest ⊢
    rw [List.cons_append, updateFirst, hFirst, Bool.false_and, if_neg Bool.false_ne_true, hRest]
    rfl

/-- A single answer is all it takes. -/
theorem SentInOrder.unanswered_acknowledge [DecidableEq ι] {before after : List (Entry ι τ)}
    {e : Entry ι τ} (h : SentInOrder (before ++ e :: after)) (hAwait : e.awaiting)
    (hBefore : ∀ x ∈ before, x.awaiting = false) (hSingle : e.expected ≤ 1) :
    unanswered (Ledger.acknowledge (before ++ e :: after) e.id) = unanswered after := by
  obtain ⟨-, hNone⟩ := h.unanswered_eq hAwait hBefore
  have hFirst : before.filter (fun x => decide (x.acknowledged < x.expected)) = [] :=
    List.filter_eq_nil_iff.mpr fun x hx => by simpa using hNone x hx
  have hLast : ¬ e.acknowledged + 1 < e.expected := by omega
  rw [acknowledge_next hAwait hBefore, unanswered, List.filter_append, hFirst, List.nil_append,
    List.filter_cons_of_neg (by simpa using hLast), ← unanswered]

/-- Sending changes nothing about the answers. -/
theorem unanswered_send {β : Type*} {g : Entry ι τ → β}
    (hg : ∀ e : Entry ι τ, g { e with sent := true } = g e) (l : Ledger ι τ) :
    l.send.unanswered.map g = l.unanswered.map g := by
  have hAnswers : ∀ m : Ledger ι τ, m.unanswered.map g =
      ((m.map fun e => (decide (e.acknowledged < e.expected), g e)).filter (·.1)).map (·.2) := by
    intro m
    rw [List.filter_map, List.map_map]
    rfl
  have hKept : (l.send.map fun e => (decide (e.acknowledged < e.expected), g e)) =
      l.map fun e => (decide (e.acknowledged < e.expected), g e) := by
    refine updateFirst_map ?_ l
    exact fun e => congrArg (Prod.mk _) (hg e)
  rw [hAnswers, hKept, ← hAnswers]

/-- The entry that is answered next is an entry, and -/
theorem IsNext.mem {l : Ledger ι τ} {e : Entry ι τ} (h : l.IsNext e) : e ∈ l := by
  obtain ⟨before, after, rfl, -, -⟩ := h
  simp

/-- The entry that is answered next awaits its answer. -/
theorem IsNext.awaiting {l : Ledger ι τ} {e : Entry ι τ} (h : l.IsNext e) : e.awaiting := by
  obtain ⟨-, -, -, hAwait, -⟩ := h
  exact hAwait

end Ledger

end MarketStreamGateway.Lib
