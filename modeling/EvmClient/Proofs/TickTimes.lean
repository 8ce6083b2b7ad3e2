import EvmClient.Node.Simulated
import EvmClient.Proofs.ScanTrail
import EvmClient.Proofs.Timeline

/-
When a tick goes over its blocks, and when it ends.

   A tick over a simulated node takes time in the pauses between its blocks only, so its blocks have instants: one
   delay after the other, from the start of the tick on. A context that gets done at some time cuts the tick there. It
   is looked at in two ways, before each block and in each pause, and both must agree at every instant; a deadline at an
   instant is seen by both. A signal at the very end of a pause may be seen or not, so the statements leave it out, and
   with it the signals of the tick's own handler.

   1. `Program.chronicle` — a run with the times of what it asks for and does.
   2. `Timely.handled`, `Timely.advance` — what the handler and the pauses leave as it is.
   3. `scanNext_chronicled` — one block takes no time.
   4. `scanBlocks_chronicled` — which blocks are gone over, and when.
   5. `tick_cut_at` — the whole tick, by the time at which its context gets done. -/
namespace EvmClient

/-! ## Chronicles -/

/-- The height of the block that a step asks for. -/
def Op.askedHeight? : Op → Option Nat
  | .ask _ (.blockByHeight height) => some height
  | _ => none

/-- The effect of a step, records apart. -/
def Op.deed? : (op : Op) → op.Answer → Option Effect
  | .append _, _ => none
  | op, r => op.effect? r

/-- A run up to here. -/
structure Chronicle (ν σ : Type) where
  world : World ν σ
  /-- The heights of the blocks that were asked for, with the times. -/
  asked : List (Nat × Nat)
  /-- What was served, handed out and written, with the times. -/
  deeds : List (Nat × Effect)

section Chronicles
variable {α ν σ : Type} [Node ν] [CheckpointStore σ]

def Chronicle.step (k : Chronicle ν σ) (op : Op) : Chronicle ν σ where
  world := (k.world.perform op).2
  asked := k.asked ++ (op.askedHeight?.map (k.world.now, ·)).toList
  deeds := k.deeds ++ ((op.deed? (k.world.perform op).1).map (k.world.now, ·)).toList

/-- Runs a program by itself and notes what it asks for and does. -/
def Program.chronicle : Program α → Chronicle ν σ → α × Chronicle ν σ
  | .done a, k => (a, k)
  | .step op next, k => (next (k.world.perform op).1).chronicle (k.step op)

/-- It is the run of the program. -/
theorem Program.chronicle_run (p : Program α) (k : Chronicle ν σ) :
    ((p.chronicle k).1, (p.chronicle k).2.world) = p.run k.world := by
  induction p generalizing k with
  | done a => rfl
  | step op next ih => exact ih _ (k.step op)

/-- The law of a program that runs by itself. -/
def chronicleLaw (ν σ : Type) [Node ν] [CheckpointStore σ] : Law (Chronicle ν σ) where
  allows _ _ := True
  leads k op r k' := r = (k.world.perform op).1 ∧ k' = k.step op

/-- What the law says of a program holds of its run. -/
theorem Program.Obeys.chronicled {p : Program α} {post : α → Chronicle ν σ → Prop} {k : Chronicle ν σ}
    (h : p.Obeys (chronicleLaw ν σ) post k) : post (p.chronicle k).1 (p.chronicle k).2 := by
  induction p generalizing k with
  | done a => exact h
  | step op next ih => exact ih _ (h.2 _ _ ⟨rfl, rfl⟩)

theorem Program.Obeys.performed {op : Op} {post : op.Answer → Chronicle ν σ → Prop} {k : Chronicle ν σ}
    (h : post (k.world.perform op).1 (k.step op)) : (Program.perform op).Obeys (chronicleLaw ν σ) post k := by
  refine .perform trivial ?_
  rintro _ _ ⟨rfl, rfl⟩
  exact h

/-- A step of which nothing is noted. -/
theorem Program.Obeys.unnoted {op : Op} {post : op.Answer → Chronicle ν σ → Prop} {k : Chronicle ν σ}
    (hasked : op.askedHeight? = none) (hdeed : ∀ r, op.deed? r = none)
    (h : post (k.world.perform op).1 { k with world := (k.world.perform op).2 }) :
    (Program.perform op).Obeys (chronicleLaw ν σ) post k := by
  have hstep : k.step op = { k with world := (k.world.perform op).2 } := by
    rw [Chronicle.step, hasked, hdeed]
    simp
  exact .performed (hstep ▸ h)

end Chronicles

/-! ## Signals of others -/

namespace Signals

theorem cancelAll_others {h : Handle} {cancels : List Handle} (hother : h ∉ cancels) (s : Signals) :
    (cancels.foldl (fun s g => s.cancel g) s).isCancelled h = s.isCancelled h ∧
      (cancels.foldl (fun s g => s.cancel g) s).isLive h = s.isLive h := by
  induction cancels generalizing s with
  | nil => exact ⟨rfl, rfl⟩
  | cons g cancels ih =>
    rw [List.mem_cons, not_or] at hother
    have hg : (g == h) = false := beq_eq_false_iff_ne.2 (Ne.symm hother.1)
    obtain ⟨hcancelled, hlive⟩ := ih hother.2 (s.cancel g)
    rw [List.foldl_cons, hcancelled, hlive, isCancelled_cancel, isLive_cancel, hg, Bool.false_and, Bool.or_false]
    exact ⟨rfl, rfl⟩

end Signals

namespace World
variable {ν σ : Type} {ctx : Context} {w : World ν σ} {s : Signals}

/-- The signals are those of the world as far as a context goes. -/
def SameFor (ctx : Context) (w : World ν σ) (s : Signals) : Prop :=
  ∀ h, ctx.handle? = some h → s.isCancelled h = w.signals.isCancelled h ∧ s.isLive h = w.signals.isLive h

theorem SameFor.isDone (h : w.SameFor ctx s) : ({ w with signals := s } : World ν σ).isDone ctx = w.isDone ctx := by
  rw [Bool.eq_iff_iff, World.isDone, World.isDone, Context.isDone_eq_true_iff, Context.isDone_eq_true_iff]
  refine or_congr_right (exists_congr fun g => and_congr_right fun hg => ?_)
  rw [(h g hg).1]

theorem SameFor.doneAt (h : w.SameFor ctx s) (t : Nat) :
    ({ w with signals := s } : World ν σ).doneAt ctx t = w.doneAt ctx t := by
  rw [Bool.eq_iff_iff, doneAt_eq_true_iff, doneAt_eq_true_iff]
  refine or_congr_right (exists_congr fun g => and_congr_right fun hg => ?_)
  rw [(h g hg).1, (h g hg).2]

theorem SameFor.doneFrom (h : w.SameFor ctx s) {T : ℕ∞} (hT : w.DoneFrom ctx T) :
    ({ w with signals := s } : World ν σ).DoneFrom ctx T := by
  intro t ht
  rw [h.doneAt]
  exact hT t ht

end World

/-- The handler does not cancel a context. -/
def Handler.Spares (ctx : Context) (handler : Handler) : Prop :=
  ∀ h, ctx.handle? = some h → ∀ seen tx block, h ∉ (handler seen tx block).cancels

/-! ## Blocks that are there -/

/-- All blocks between two heights are there, and no look-up of them fails. -/
def SimulatedNode.Serves (low high : Nat) (n : SimulatedNode) : Prop :=
  ∀ h, low < h → h < high → n.failing.contains h = false ∧ (n.blocks.find? (·.number.toNat == h)).isSome = true

theorem SimulatedNode.Serves.lookUp {low high h : Nat} {n : SimulatedNode} (hn : n.Serves low high) (hlow : low < h)
    (hhigh : h < high) :
    ∃ block, n.lookUpBlock h = (.ok (some block), { n with blockQueries := n.blockQueries ++ [h] }) := by
  obtain ⟨hsound, hfound⟩ := hn h hlow hhigh
  obtain ⟨block, hblock⟩ := Option.isSome_iff_exists.1 hfound
  refine ⟨block, ?_⟩
  simp only [SimulatedNode.lookUpBlock, hsound, hblock]
  rfl

/-- What a tick relies on: its context gets done at `T`, and its blocks are there and stay. -/
structure Timely (ctx : Context) (T : ℕ∞) (low high : Nat) (w : World SimulatedNode MemoryStore) : Prop where
  ordered : w.Ordered
  done : w.DoneFrom ctx T
  /-- No signal that is due now is still to come. -/
  seen : T ≤ (w.now : ℕ) → w.isDone ctx = true
  serves : w.node.Serves low high
  stays : ∀ p ∈ w.agenda, ∀ n, n.Serves low high → (p.2.change n).Serves low high

namespace Timely
variable {ctx : Context} {T : ℕ∞} {low high : Nat} {w : World SimulatedNode MemoryStore}

/-- It is about the time, the node, the signals and the coming events only. -/
theorem frame (h : Timely ctx T low high w) (w' : World SimulatedNode MemoryStore) (hnow : w'.now = w.now)
    (hnode : w'.node.Serves low high) (hsignals : w'.signals = w.signals) (hagenda : w'.agenda = w.agenda) :
    Timely ctx T low high w' := by
  obtain ⟨now, node, pool, store, signals, agenda, held, handled, clock⟩ := w'
  cases hnow
  cases hsignals
  cases hagenda
  exact ⟨h.ordered, h.done, h.seen, hnode, h.stays⟩

/-- The handler leaves the context alone. -/
theorem handled (h : Timely ctx T low high w) {handler : Handler} (hhandler : handler.Spares ctx) (tx : Transaction)
    (block : Block) : Timely ctx T low high (w.perform (.handle handler tx block)).2 := by
  have hsame : w.SameFor ctx ((handler w.handled tx block).cancels.foldl (fun s g => s.cancel g) w.signals) :=
    fun g hg => Signals.cancelAll_others (hhandler g hg _ tx block) w.signals
  refine ⟨h.ordered, hsame.doneFrom h.done, ?_, h.serves, h.stays⟩
  intro hT
  exact hsame.isDone.trans (h.seen hT)

theorem undone (h : Timely ctx T low high w) : w.isDone ctx = false ↔ (w.now : ℕ∞) < T := by
  constructor
  · intro hundone
    refine lt_of_not_ge fun hT => ?_
    rw [h.seen hT] at hundone
    cases hundone
  · exact h.done.undone

/-- A pause that passes. -/
theorem advance (h : Timely ctx T low high w) {stop : Nat} (hstop : w.now ≤ stop) (hT : (stop : ℕ∞) < T) :
    Timely ctx T low high (w.advance stop) := by
  refine ⟨h.ordered.advance stop, h.done.advance hstop, fun hle => absurd hT (not_lt.2 hle), ?_, ?_⟩
  · -- Each event before the end keeps the blocks, so all of them do.
    refine List.foldlRecOn _ _ h.serves fun n hn p hp => ?_
    exact h.stays p ((List.takeWhile_sublist _).subset hp) n hn
  · intro p hp
    exact h.stays p ((List.dropWhile_sublist _).subset hp)

/-- A look at the context shows whether its time has come. -/
theorem isDone_obeys {k : Chronicle SimulatedNode MemoryStore} (h : Timely ctx T low high k.world)
    {post : Bool → Chronicle SimulatedNode MemoryStore → Prop} (hdone : T ≤ (k.world.now : ℕ) → post true k)
    (hundone : (k.world.now : ℕ∞) < T → post false k) :
    (Program.perform (.isDone ctx)).Obeys (chronicleLaw SimulatedNode MemoryStore) post k := by
  refine .unnoted rfl (fun _ => rfl) ?_
  show post (k.world.isDone ctx) k
  rcases lt_or_ge (k.world.now : ℕ∞) T with hearly | hlate
  · rw [h.undone.2 hearly]
    exact hundone hearly
  · rw [h.seen hlate]
    exact hdone hlate

/-- A pause ends when the context gets done, or it passes. -/
theorem pause_obeys {k : Chronicle SimulatedNode MemoryStore} (h : Timely ctx T low high k.world) {span : Nat}
    (hspan : 0 < span) (huntied : T = (k.world.now + span : ℕ) → ctx.deadline? = some (k.world.now + span))
    {post : Bool → Chronicle SimulatedNode MemoryStore → Prop}
    (hended : ∀ w : World SimulatedNode MemoryStore, w.store = k.world.store → T ≤ (k.world.now + span : ℕ) →
      (w.now : ℕ∞) = max T k.world.now → post true { k with world := w })
    (hpassed : ∀ w : World SimulatedNode MemoryStore, w.store = k.world.store →
      ((k.world.now + span : ℕ) : ℕ∞) < T → w.now = k.world.now + span → Timely ctx T low high w →
      post false { k with world := w }) :
    (Program.perform (.pause ctx span)).Obeys (chronicleLaw SimulatedNode MemoryStore) post k := by
  have hstore : (k.world.pause ctx span).2.store = k.world.store := perform_leads k.world (.pause ctx span)
  refine .unnoted rfl (fun _ => rfl) ?_
  show post (k.world.pause ctx span).1 { k with world := (k.world.pause ctx span).2 }
  rcases lt_or_ge ((k.world.now + span : ℕ) : ℕ∞) T with hearly | hlate
  · rw [World.pause_passes hspan h.done hearly]
    exact hpassed _ rfl hearly rfl (h.advance (Nat.le_add_right _ _) hearly)
  · obtain ⟨hdone, hend⟩ := World.pause_ends hspan h.ordered h.done hlate huntied
    rw [hdone]
    exact hended _ hstore hlate hend

end Timely

/-! ## One block -/

/-- What is done of a block at one time. -/
def passAt (time height : Nat) (block : Block) : List (Nat × Effect) :=
  ([Effect.served height block] ++ block.transactions.map (Effect.handled · block) ++ [Effect.wrote height true]).map
    (time, ·)

theorem passAt_time {time height : Nat} {block : Block} {e : Nat × Effect} (h : e ∈ passAt time height block) :
    e.1 = time := by
  obtain ⟨_, -, rfl⟩ := List.mem_map.1 h
  rfl

section Ticks
variable {scanner : Scanner} {ctx : Context} {T : ℕ∞} {low high : Nat} {k : Chronicle SimulatedNode MemoryStore}

/-- At one time, more was done; nothing more was asked for. -/
structure Continues (ctx : Context) (T : ℕ∞) (low high : Nat) (k : Chronicle SimulatedNode MemoryStore)
    (deeds : List Effect) (k' : Chronicle SimulatedNode MemoryStore) : Prop where
  timely : Timely ctx T low high k'.world
  now : k'.world.now = k.world.now
  asked : k'.asked = k.asked
  deeds : k'.deeds = k.deeds ++ deeds.map (k.world.now, ·)

theorem Continues.trans {a b : List Effect} {k' k'' : Chronicle SimulatedNode MemoryStore}
    (h : Continues ctx T low high k a k') (h' : Continues ctx T low high k' b k'') :
    Continues ctx T low high k (a ++ b) k'' := by
  refine ⟨h'.timely, h'.now.trans h.now, h'.asked.trans h.asked, ?_⟩
  rw [h'.deeds, h.deeds, h.now, List.map_append, List.append_assoc]

theorem record_continues (h : Timely ctx T low high k.world) (tx : Transaction) (block : Block) (causes : List String) :
    (Scanner.record tx block causes).Obeys (chronicleLaw SimulatedNode MemoryStore)
      (fun _ => Continues ctx T low high k []) k := by
  refine .bind (.unnoted rfl (fun _ => rfl) (.bind (.unnoted rfl (fun _ => rfl) ?_)))
  exact ⟨h.frame _ rfl h.serves rfl rfl, rfl, rfl, (List.append_nil _).symm⟩

theorem handleAll_continues (hhandler : scanner.handler.Spares ctx) (block : Block) (txs : List Transaction) :
    ∀ k : Chronicle SimulatedNode MemoryStore, Timely ctx T low high k.world →
      (scanner.handleAll block txs).Obeys (chronicleLaw SimulatedNode MemoryStore)
        (fun _ => Continues ctx T low high k (txs.map (Effect.handled · block))) k := by
  induction txs with
  | nil => exact fun k h => ⟨h, rfl, rfl, (List.append_nil _).symm⟩
  | cons tx txs ih =>
    intro k h
    refine .bind (.performed ?_)
    have hhandled : Continues ctx T low high k [.handled tx block] (k.step (.handle scanner.handler tx block)) :=
      ⟨h.handled hhandler tx block, rfl, List.append_nil _, rfl⟩
    have hrest : ∀ k', Continues ctx T low high k [.handled tx block] k' →
        (scanner.handleAll block txs).Obeys (chronicleLaw SimulatedNode MemoryStore)
          (fun _ => Continues ctx T low high k ((tx :: txs).map (Effect.handled · block))) k' :=
      fun k' hk' => (ih k' hk'.timely).mono fun _ _ h' => hk'.trans h'
    cases ((k.world.perform (.handle scanner.handler tx block)).1 : Option (List String)) with
    | none => exact hrest _ hhandled
    | some causes =>
      refine .bind ((record_continues hhandled.timely tx block causes).mono ?_)
      intro _ k' hk'
      exact .bind ((hrest k' (hhandled.trans hk')).mono fun _ _ h => h)

/-- One block is gone over and takes no time. -/
theorem scanNext_chronicled (hhandler : scanner.handler.Spares ctx) (c : Connection) (p : Progress)
    (hlow : low < p.last + 1) (hhigh : p.last + 1 < high) (h : Timely ctx T low high k.world) :
    (scanner.scanNext c p).run.Obeys (chronicleLaw SimulatedNode MemoryStore)
      (fun r k' => ∃ q block, r = .ok q ∧ q.last = p.last + 1 ∧ Timely ctx T low high k'.world ∧
        k'.world.now = k.world.now ∧ k'.world.store.height = p.last + 1 ∧
        k'.asked = k.asked ++ [(k.world.now, p.last + 1)] ∧
        k'.deeds = k.deeds ++ passAt k.world.now (p.last + 1) block) k := by
  obtain ⟨block, hblock⟩ := h.serves.lookUp hlow hhigh
  have hask : k.world.perform (.ask c (.blockByHeight (p.last + 1))) =
      (.ok (some block), { k.world with node := { k.world.node with
        blockQueries := k.world.node.blockQueries ++ [p.last + 1] } }) := by
    show ((k.world.node.lookUpBlock (p.last + 1)).1,
      ({ k.world with node := (k.world.node.lookUpBlock (p.last + 1)).2 } : World SimulatedNode MemoryStore)) = _
    rw [hblock]
  have hserved : Timely ctx T low high (k.step (.ask c (.blockByHeight (p.last + 1)))).world := by
    rw [Chronicle.step, hask]
    exact h.frame _ rfl h.serves rfl rfl
  have hnow : (k.step (.ask c (.blockByHeight (p.last + 1)))).world.now = k.world.now := by
    rw [Chronicle.step, hask]
  have hdeeds : (k.step (.ask c (.blockByHeight (p.last + 1)))).deeds =
      k.deeds ++ [(k.world.now, .served (p.last + 1) block)] := by
    rw [Chronicle.step, hask]
    rfl
  refine .action (.action (.performed ?_))
  rw [hask]
  refine .program ((handleAll_continues hhandler block block.transactions _ hserved).mono ?_)
  intro failed k' hk'
  refine .action (.performed ?_)
  refine ⟨_, block, rfl, rfl, hk'.timely.frame _ rfl hk'.timely.serves rfl rfl, hk'.now.trans hnow, rfl, ?_, ?_⟩
  · show k'.asked ++ [] = _
    rw [List.append_nil, hk'.asked]
    rfl
  · show k'.deeds ++ [(k'.world.now, .wrote (p.last + 1) true)] = _
    rw [hk'.now, hk'.deeds, hnow, hdeeds]
    simp [passAt]

/-! ## All blocks -/

/-- Blocks were gone over at their instants, and nothing else was asked for or done. The first of them has the height
`first` and the instant `start`, and `span` is between two instants. -/
structure Walked (start span first kept : Nat) (blocks : List Block) (k : Chronicle SimulatedNode MemoryStore) :
    Prop where
  asked : k.asked = (List.range blocks.length).map fun i => (start + i * span, first + i)
  deeds : k.deeds = blocks.zipIdx.flatMap fun (block, i) => passAt (start + i * span) (first + i) block
  /-- The stored height is that of the last of them; before the first it is `kept`. -/
  height : k.world.store.height = if blocks = [] then kept else first + blocks.length - 1

/-- Of `count` blocks those before the `i`-th have instants before `T`, and after them it is over. -/
structure CutAt (T : ℕ∞) (start span count i now : Nat) : Prop where
  fits : i ≤ count
  before : ∀ j < count, j < i ↔ ((start + j * span : ℕ) : ℕ∞) < T
  whole : i = count → now = start + (count - 1) * span
  cut : i < count → (now : ℕ∞) = max T start

/-- No signal comes at an instant at which a pause ends; a deadline may. -/
def Untied (ctx : Context) (T : ℕ∞) (start span count : Nat) : Prop :=
  ∀ i < count, 0 < i * span → T = (start + i * span : ℕ) → ctx.deadline? = some (start + i * span)

section Walks
variable {start span first kept count i : Nat} {blocks : List Block}

theorem Walked.next (h : Walked start span first kept blocks k) {block : Block}
    {k' : Chronicle SimulatedNode MemoryStore}
    (hasked : k'.asked = k.asked ++ [(start + blocks.length * span, first + blocks.length)])
    (hdeeds : k'.deeds = k.deeds ++ passAt (start + blocks.length * span) (first + blocks.length) block)
    (hheight : k'.world.store.height = first + blocks.length) :
    Walked start span first kept (blocks ++ [block]) k' where
  asked := by rw [hasked, h.asked, List.length_append, List.length_singleton, List.range_succ, List.map_append]; rfl
  deeds := by rw [hdeeds, h.deeds, List.zipIdx_append, List.flatMap_append]; simp
  height := by rw [hheight, if_neg (by simp), List.length_append]; rfl

/-- It is not about the world beside the store. -/
theorem Walked.elsewhere (h : Walked start span first kept blocks k) {w : World SimulatedNode MemoryStore}
    (hw : w.store = k.world.store) : Walked start span first kept blocks { k with world := w } :=
  ⟨h.asked, h.deeds, (congrArg MemoryStore.height hw).trans h.height⟩

/-- An earlier block has an earlier instant. -/
theorem instant_le {j : Nat} (h : i ≤ j) : ((start + i * span : ℕ) : ℕ∞) ≤ (start + j * span : ℕ) :=
  Nat.cast_le.2 (Nat.add_le_add_left (Nat.mul_le_mul_right _ h) _)

theorem CutAt.atEnd {now : Nat} (hnow : now = start + (count - 1) * span) (hearly : 0 < count → (now : ℕ∞) < T) :
    CutAt T start span count count now where
  fits := Nat.le_refl _
  before j hj := by
    refine iff_of_true hj ((instant_le (Nat.le_sub_one_of_lt hj)).trans_lt ?_)
    rw [← hnow]
    exact hearly (Nat.zero_lt_of_lt hj)
  whole _ := hnow
  cut hlt := absurd hlt (Nat.lt_irrefl _)

theorem CutAt.beforeEnd {now : Nat} (hi : i < count) (hearly : ∀ j < i, ((start + j * span : ℕ) : ℕ∞) < T)
    (hlate : T ≤ (start + i * span : ℕ)) (hnow : (now : ℕ∞) = max T start) : CutAt T start span count i now where
  fits := Nat.le_of_lt hi
  before j _ := by
    refine ⟨hearly j, fun hT => Nat.lt_of_not_le fun hle => ?_⟩
    exact absurd hT (not_lt.2 (hlate.trans (instant_le hle)))
  whole heq := absurd heq (Nat.ne_of_lt hi)
  cut _ := hnow

end Walks

/-- Which blocks are gone over, and when. -/
theorem scanBlocks_chronicled {start first kept count : Nat} (hhandler : scanner.handler.Spares ctx) (c : Connection)
    (hlow : low < first) (hhigh : first + count ≤ high) (huntied : Untied ctx T start scanner.delay count)
    (left : Nat) :
    ∀ (blocks : List Block) (p : Progress) (k : Chronicle SimulatedNode MemoryStore), blocks.length + left = count →
      p.last + 1 = first + blocks.length → Timely ctx T low high k.world →
      k.world.now = start + min blocks.length (count - 1) * scanner.delay →
      (0 < blocks.length → (k.world.now : ℕ∞) < T) → Walked start scanner.delay first kept blocks k →
      (scanner.scanBlocks ctx c left p).run.Obeys (chronicleLaw SimulatedNode MemoryStore)
        (fun r k' => ∃ q blocks, r = .ok q ∧ q.last + 1 = first + blocks.length ∧
          Walked start scanner.delay first kept blocks k' ∧
          CutAt T start scanner.delay count blocks.length k'.world.now) k := by
  -- So many blocks are left, and the instant of the next one is now.
  induction left with
  | zero =>
    rintro blocks p k rfl hlast - hnow hearly hwalked
    rw [Nat.add_zero, Nat.min_eq_right (Nat.sub_le _ _)] at hnow
    exact ⟨p, blocks, rfl, hlast, hwalked, .atEnd hnow hearly⟩
  | succ left ih =>
    intro blocks p k hcount hlast h hnow hearly hwalked
    rw [Nat.min_eq_left (by omega)] at hnow
    refine .program (h.isDone_obeys ?_ ?_)
    · intro hlate
      -- Later blocks are come to before `T` only.
      have hnone : blocks.length = 0 := Nat.eq_zero_of_not_pos fun hpos => absurd (hearly hpos) (not_lt.2 hlate)
      have hstart : k.world.now = start := by rw [hnow, hnone, Nat.zero_mul, Nat.add_zero]
      refine ⟨p, blocks, rfl, hlast, hwalked, .beforeEnd (by omega) (by omega) (hnow ▸ hlate) ?_⟩
      rw [hstart] at hlate ⊢
      exact (max_eq_right hlate).symm
    · intro hT
      refine .action ((scanNext_chronicled hhandler c p (by omega) (by omega) h).mono ?_)
      rintro _ k₁ ⟨q, block, rfl, hq, h₁, hnow₁, hheight, hasked, hdeeds⟩
      rw [hnow] at hT hnow₁ hasked hdeeds
      rw [hlast] at hq hheight hasked hdeeds
      have hwalked₁ := hwalked.next hasked hdeeds hheight
      have hlength : (blocks ++ [block]).length = blocks.length + 1 := List.length_append
      dsimp only
      split
      · rename_i hpause
        have hspan : 0 < scanner.delay := Nat.pos_of_ne_zero hpause.1
        have hmore : blocks.length + 1 < count := by omega
        have hnext : k₁.world.now + scanner.delay = start + (blocks.length + 1) * scanner.delay := by
          rw [hnow₁, Nat.succ_mul, Nat.add_assoc]
        have huntied := huntied (blocks.length + 1) hmore (Nat.mul_pos (Nat.succ_pos _) hspan)
        rw [← hnext] at huntied
        refine .program (h₁.pause_obeys hspan huntied ?_ ?_)
        · intro w hstore hlate hend
          refine ⟨q, _, rfl, by omega, hwalked₁.elsewhere hstore, ?_⟩
          rw [hlength]
          refine .beforeEnd hmore (fun j hj => (instant_le (Nat.le_of_lt_succ hj)).trans_lt hT) (hnext ▸ hlate) ?_
          have hstart : (start : ℕ∞) ≤ (start + blocks.length * scanner.delay : ℕ) :=
            Nat.cast_le.2 (Nat.le_add_right _ _)
          rw [hend, hnow₁, max_eq_left hT.le, max_eq_left (hstart.trans hT.le)]
        · intro w hstore hpasses hend h₂
          refine ih (blocks ++ [block]) q _ (by omega) (by omega) h₂ ?_ (fun _ => hend ▸ hpasses)
            (hwalked₁.elsewhere hstore)
          rw [hlength, hend, hnext, Nat.min_eq_left (by omega)]
      · rename_i hnone
        refine ih (blocks ++ [block]) q _ (by omega) (by omega) h₁ ?_ (fun _ => hnow₁ ▸ hT) hwalked₁
        by_cases hspan : scanner.delay = 0
        · rw [hnow₁, hspan, Nat.mul_zero, Nat.mul_zero]
        · -- It was the last block.
          rw [hnow₁, hlength, Nat.min_eq_right (by omega)]
          congr 2
          omega

/-! ## The tick -/

/-- The time, the store and the chain are the same. -/
structure Alike (w w' : World SimulatedNode MemoryStore) : Prop where
  now : w'.now = w.now
  store : w'.store = w.store
  head : w'.node.head = w.node.head
  timely : ∀ {ctx : Context} {T : ℕ∞} {low high : Nat}, Timely ctx T low high w → Timely ctx T low high w'

theorem Alike.trans {w w' w'' : World SimulatedNode MemoryStore} (h : Alike w w') (h' : Alike w' w'') : Alike w w'' :=
  ⟨h'.now.trans h.now, h'.store.trans h.store, h'.head.trans h.head, fun ht => h'.timely (h.timely ht)⟩

theorem dial_alike {w : World SimulatedNode MemoryStore} (h : w.node.refusesDials = false) :
    ∃ c w', w.perform .dial = (.ok c, w') ∧ Alike w w' := by
  have hnode : w.node.dial = (.ok w.node.dials, { w.node with dials := w.node.dials + 1 }) := if_neg (by simp [h])
  refine ⟨w.node.dials, { w with node := { w.node with dials := w.node.dials + 1 } }, ?_, rfl, rfl, rfl, ?_⟩
  · show (w.node.dial.1, ({ w with node := w.node.dial.2 } : World SimulatedNode MemoryStore)) = _
    rw [hnode]
  · exact fun h => h.frame _ rfl h.serves rfl rfl

theorem acquire_alike
    (hconn : k.world.pool.idle ≠ [] ∨ k.world.pool.closed = false ∧ k.world.node.refusesDials = false) :
    Lease.acquire.run.Obeys (chronicleLaw SimulatedNode MemoryStore)
      (fun r k' => ∃ c w, r = .ok c ∧ k' = { k with world := w } ∧ Alike k.world w) k := by
  have htake : (k.world.perform .take).1 = k.world.pool.idle.head? := rfl
  have htaken : Alike k.world (k.world.perform .take).2 :=
    ⟨rfl, rfl, rfl, fun h => h.frame _ rfl h.serves rfl rfl⟩
  refine .program (.unnoted rfl (fun _ => rfl) ?_)
  rw [htake]
  cases hidle : k.world.pool.idle with
  | cons c rest => exact ⟨c, _, rfl, rfl, htaken⟩
  | nil =>
    obtain ⟨hopen, hdials⟩ := hconn.resolve_left (· hidle)
    obtain ⟨c, w, hdial, hdialled⟩ := dial_alike (w := (k.world.perform .take).2) hdials
    have hclosed : ((k.world.perform .take).2.perform .isClosed).1 = false := hopen
    refine .program (.unnoted rfl (fun _ => rfl) ?_)
    rw [hclosed]
    refine .unnoted rfl (fun _ => rfl) ?_
    exact ⟨c, _, congrArg Prod.fst hdial, rfl, htaken.trans (hdial ▸ hdialled)⟩

theorem giveBack_alike (c : Connection) :
    (Lease.giveBack c).Obeys (chronicleLaw SimulatedNode MemoryStore)
      (fun _ k' => ∃ w, k' = { k with world := w } ∧ Alike k.world w) k := by
  have hput : Alike k.world (k.world.perform (.put c)).2 :=
    ⟨rfl, rfl, rfl, fun h => h.frame _ rfl h.serves rfl rfl⟩
  refine .bind (.unnoted rfl (fun _ => rfl) ?_)
  cases (k.world.perform (.put c)).1 with
  | true => exact ⟨_, rfl, hput⟩
  | false =>
    refine .bind (.unnoted rfl (fun _ => rfl) ?_)
    exact ⟨_, rfl, hput.trans ⟨rfl, rfl, rfl, fun h => h.frame _ rfl h.serves rfl rfl⟩⟩

/-- What a tick answers, when, and what it did. -/
def CutTick (T : ℕ∞) (start span resume highest kept : Nat) (r : Except ClientError TickOutcome)
    (k : Chronicle SimulatedNode MemoryStore) : Prop :=
  ∃ blocks failed,
    r = .ok (if blocks = [] then .skipped resume highest else .scanned (resume + 1) (resume + blocks.length) failed) ∧
    Walked start span (resume + 1) kept blocks k ∧ CutAt T start span (highest - 1 - resume) blocks.length k.world.now

theorem tickOver_chronicled {resume highest : Nat} {w : World SimulatedNode MemoryStore}
    (hhandler : scanner.handler.Spares ctx) (c : Connection) (hresume : max w.store.height scanner.start = resume)
    (hhighest : w.node.head.toNat = highest) (h : Timely ctx T resume highest w)
    (huntied : Untied ctx T w.now scanner.delay (highest - 1 - resume)) :
    (scanner.tickOver ctx c).run.Obeys (chronicleLaw SimulatedNode MemoryStore)
      (CutTick T w.now scanner.delay resume highest w.store.height) ⟨w, [], []⟩ := by
  have hstart : Walked w.now scanner.delay (resume + 1) w.store.height [] ⟨w, [], []⟩ := ⟨rfl, rfl, rfl⟩
  have hhead : w.perform (.ask c .blockNumber) = (.ok w.node.head, w) := rfl
  have hread : w.perform .readHeight = (.ok w.store.height, w) := rfl
  refine .action (.unnoted rfl (fun _ => rfl) ?_)
  rw [hhead]
  refine .action (.unnoted rfl (fun _ => rfl) ?_)
  rw [hread]
  dsimp only
  rw [hresume, hhighest]
  split
  · rename_i hnone
    have hcount : highest - 1 - resume = 0 := by omega
    refine ⟨[], 0, rfl, hstart, ?_⟩
    rw [hcount]
    exact .atEnd (by simp) fun h => absurd h (Nat.lt_irrefl 0)
  · rename_i hnew
    have hlast : resume + 1 + (highest - 1 - resume) ≤ highest := by omega
    have hloop := scanBlocks_chronicled hhandler c (Nat.lt_succ_self resume) hlast huntied (highest - 1 - resume) []
      ⟨resume, 0⟩ ⟨w, [], []⟩ (Nat.zero_add _) rfl h (by simp) (fun h => absurd h (Nat.lt_irrefl 0)) hstart
    refine .action (hloop.mono ?_)
    rintro _ k ⟨q, blocks, rfl, hlast, hwalked, hcut⟩
    have hq : q.last = resume + blocks.length := by omega
    have hskips : q.last = resume ↔ blocks = [] := by
      rw [← List.length_eq_zero_iff]
      omega
    dsimp only
    split
    · rename_i hnone
      refine ⟨blocks, q.failed, ?_, hwalked, hcut⟩
      rw [if_pos (hskips.1 hnone)]
    · rename_i hsome
      refine ⟨blocks, q.failed, ?_, hwalked, hcut⟩
      rw [if_neg (mt hskips.2 hsome), hq]

/-- The connection and the lock take no time. -/
theorem tick_chronicled {resume highest : Nat} {w : World SimulatedNode MemoryStore}
    (hhandler : scanner.handler.Spares ctx)
    (hconn : w.pool.idle ≠ [] ∨ w.pool.closed = false ∧ w.node.refusesDials = false)
    (hresume : max w.store.height scanner.start = resume) (hhighest : w.node.head.toNat = highest)
    (h : Timely ctx T resume highest w)
    (huntied : Untied ctx T w.now scanner.delay (highest - 1 - resume)) :
    (scanner.tick ctx).run.Obeys (chronicleLaw SimulatedNode MemoryStore)
      (CutTick T w.now scanner.delay resume highest w.store.height) ⟨w, [], []⟩ := by
  have hlocked : Alike w (w.perform (.lock scanner.lock)).2 := ⟨rfl, rfl, rfl, fun h => h.frame _ rfl h.serves rfl rfl⟩
  refine .bind (.unnoted rfl (fun _ => rfl) ?_)
  refine .bind (.bind ((acquire_alike hconn).mono ?_))
  rintro _ _ ⟨c, w', rfl, rfl, hacquired⟩
  have hw' := hlocked.trans hacquired
  have hover := tickOver_chronicled (w := w') hhandler c (hw'.store ▸ hresume) (hw'.head ▸ hhighest) (hw'.timely h)
    (hw'.now ▸ huntied)
  rw [hw'.now, hw'.store] at hover
  refine .bind (hover.mono ?_)
  rintro r k ⟨blocks, failed, hr, hwalked, hcut⟩
  refine .bind ((giveBack_alike c).mono ?_)
  rintro _ _ ⟨w'', rfl, hback⟩
  refine .bind (.unnoted rfl (fun _ => rfl) ?_)
  exact ⟨blocks, failed, hr, hwalked.elsewhere hback.store, hback.now ▸ hcut⟩

/-- A context that gets done at `T` cuts a tick there. Its blocks are gone over one delay after the other, and of them
those whose instants are before `T`: each is asked for, handed out and written at its instant. The tick ends with the
last of all its blocks, or at `T` where that is earlier, or at once where `T` has come; it answers the last block it has
gone over, which is the one that the next tick goes on from. From `T` on nothing is asked for, handed out or written. -/
theorem tick_cut_at {w : World SimulatedNode MemoryStore}
    (hconn : w.pool.idle ≠ [] ∨ w.pool.closed = false ∧ w.node.refusesDials = false)
    (h : Timely ctx T (max w.store.height scanner.start) w.node.head.toNat w)
    (huntied : Untied ctx T w.now scanner.delay (w.node.head.toNat - 1 - max w.store.height scanner.start))
    (hhandler : scanner.handler.Spares ctx) :
    let resume := max w.store.height scanner.start
    let highest := w.node.head.toNat
    let count := highest - 1 - resume
    let instant := fun i : ℕ => w.now + i * scanner.delay
    let k := ((scanner.tick ctx).run.chronicle ⟨w, [], []⟩).2
    ∃ (blocks : List Block) (failed : Nat),
      (scanner.tick ctx).run.run w =
        (.ok (if blocks = [] then .skipped resume highest else .scanned (resume + 1) (resume + blocks.length) failed),
          k.world) ∧
      blocks.length ≤ count ∧ (∀ i < count, i < blocks.length ↔ (instant i : ℕ∞) < T) ∧
      k.asked = (List.range blocks.length).map (fun i => (instant i, resume + 1 + i)) ∧
      k.deeds = blocks.zipIdx.flatMap (fun (block, i) => passAt (instant i) (resume + 1 + i) block) ∧
      k.world.store.height = (if blocks = [] then w.store.height else resume + blocks.length) ∧
      (blocks.length = count → k.world.now = instant (count - 1)) ∧
      (blocks.length < count → (k.world.now : ℕ∞) = max T w.now) ∧
      (∀ e ∈ k.asked, (e.1 : ℕ∞) < T) ∧ ∀ e ∈ k.deeds, (e.1 : ℕ∞) < T := by
  intro resume highest count instant k
  obtain ⟨blocks, failed, hanswer, hwalked, hcut⟩ := (tick_chronicled hhandler hconn rfl rfl h huntied).chronicled
  have hearly : ∀ i < blocks.length, (instant i : ℕ∞) < T :=
    fun i hi => (hcut.before i (Nat.lt_of_lt_of_le hi hcut.fits)).1 hi
  have hrun : ((scanner.tick ctx).run.chronicle ⟨w, [], []⟩).1 = _ ∧ k.world = _ :=
    Prod.mk.inj (Program.chronicle_run (scanner.tick ctx).run ⟨w, [], []⟩)
  refine ⟨blocks, failed, Prod.ext (hrun.1.symm.trans hanswer) hrun.2.symm, hcut.fits, hcut.before, hwalked.asked,
    hwalked.deeds, ?_, hcut.whole, hcut.cut, ?_, ?_⟩
  · rw [hwalked.height]
    split
    · rfl
    · omega
  · intro e he
    rw [hwalked.asked] at he
    obtain ⟨i, hi, rfl⟩ := List.mem_map.1 he
    exact hearly i (List.mem_range.1 hi)
  · intro e he
    rw [hwalked.deeds] at he
    obtain ⟨⟨block, i⟩, hi, he⟩ := List.mem_flatMap.1 he
    rw [passAt_time he]
    exact hearly i (List.snd_lt_of_mem_zipIdx hi)

end Ticks

/-! ## A tick that is cut in a pause -/

def steadyScanner : Scanner := ⟨0, 1, 1000, fun _ _ _ => .success⟩

/-- Blocks up to the sixth are there, and the context of handle 0 is cancelled in the pause behind the third. -/
def cuttableWorld : World SimulatedNode MemoryStore :=
  let node := ([2, 3, 4, 5, 6].map (SimulatedNode.blockOf · [])).foldl (fun n b => n.addBlock b) .initial
  { World.initial node 1 .empty with signals := ⟨[⟨false, false⟩]⟩, agenda := [(1500, .cancel 0)] }

theorem cuttableWorld_done : cuttableWorld.DoneFrom (.withHandle 0) (1500 : ℕ) := by
  intro t ht
  rw [World.doneAt_eq_true_iff, Nat.cast_le]
  constructor
  · rintro (⟨d, hd, -⟩ | ⟨g, hg, hs | ⟨-, u, hu, hmem⟩⟩)
    · cases hd
    · cases hg
      cases hs
    · obtain ⟨rfl, -⟩ := Prod.mk.inj (List.mem_singleton.1 hmem)
      exact hu
  · intro hle
    exact .inr ⟨0, rfl, .inr ⟨rfl, 1500, hle, List.mem_singleton_self _⟩⟩

theorem cuttableWorld_timely : Timely (.withHandle 0) (1500 : ℕ) 1 6 cuttableWorld where
  ordered := List.pairwise_singleton _ _
  done := cuttableWorld_done
  seen h := absurd h (by decide)
  serves h hlow hhigh := by
    obtain rfl | rfl | rfl | rfl : h = 2 ∨ h = 3 ∨ h = 4 ∨ h = 5 := by omega
    all_goals exact ⟨rfl, rfl⟩
  stays p hp n hn := by
    rw [List.mem_singleton.1 hp]
    exact hn

/-- Two of the four blocks are gone over. -/
theorem tick_cut_at_cancelled : ∃ failed w,
    (steadyScanner.tick (.withHandle 0)).run.run cuttableWorld = (.ok (.scanned 2 3 failed), w) ∧ w.now = 1500 ∧
      ((steadyScanner.tick (.withHandle 0)).run.chronicle ⟨cuttableWorld, [], []⟩).2.asked = [(0, 2), (1000, 3)] := by
  have huntied : Untied (.withHandle 0) (1500 : ℕ) cuttableWorld.now 1000 4 := by
    intro i _ _ hi
    have hi : 1500 = 0 + i * 1000 := Nat.cast_inj.1 hi
    omega
  have hhandler : steadyScanner.handler.Spares (.withHandle 0) := fun _ _ _ _ _ => List.not_mem_nil
  obtain ⟨blocks, failed, hrun, hfits, hbefore, hasked, -, -, -, hcut, -, -⟩ :=
    tick_cut_at (.inr ⟨rfl, rfl⟩) cuttableWorld_timely huntied hhandler
  have h1 := (hbefore 1 (by decide)).2 (Nat.cast_lt.2 (by decide))
  have h2 := (hbefore 2 (by decide)).not.2 (by rw [Nat.cast_lt]; decide)
  have hlength : blocks.length = 2 := by omega
  have hsome : blocks ≠ [] := by
    rintro rfl
    cases hlength
  rw [if_neg hsome, hlength] at hrun
  rw [hlength] at hasked hcut
  refine ⟨failed, _, hrun, ?_, hasked⟩
  have hnow := hcut (by decide)
  rw [← Nat.mono_cast.map_max, Nat.cast_inj] at hnow
  exact hnow

end EvmClient
