import EvmClient.Node.Simulated
import EvmClient.Proofs.Numerals
import EvmClient.Proofs.TickProtocol
import EvmClient.Proofs.TickReport

/-
A damaged height stops a scan.

   What the height's file holds states a height or states none, and nothing that states none is taken for a zero: a
   tick that cannot read the height ends in an error before it has fetched a block, called a handler or written
   anything. So the file stays for whoever mends it, however often the scan tries again.

   1. `heightOf_eq_ok_iff`, `readHeight_eq_ok_iff` — a text, and a file, is read as the height that it states.
   2. `tick_unread`, `poll_unread` — a tick whose reading of the height fails touches nothing, nor does a scan of them.
   3. `Program.Obeys.unread`, `TaskSystem.ticks_unread` — so over a store whose height cannot be read nothing changes,
      however many ticks there are, one after the other or at the same time.
   4. `damaged_height_stops_scans` — both for the store in files. -/
namespace EvmClient

/-! ## Heights in texts -/

/-- A text states a height. Blanks alone state zero; digits with at most a plus in front, and blanks around them, state
the number that they denote, if 64 bits hold it. -/
inductive StatesHeight : List Char → ℕ → Prop where
  | blank {cs : List Char} (blank : ∀ c ∈ cs, Text.isBlank c = true) : StatesHeight cs 0
  | number {sign ds cs : List Char} (plus : sign = [] ∨ sign = ['+']) (digits : ∀ c ∈ ds, c.isDigit = true)
    (some : ds ≠ []) (framed : Text.Framed (sign ++ ds) cs) (fits : Decimal.denoted ds < 2 ^ 64) :
    StatesHeight cs (Decimal.denoted ds)

namespace Text

theorem trim_eq_nil_iff {cs : List Char} : trim cs = [] ↔ ∀ c ∈ cs, isBlank c = true := by
  constructor
  · intro htrim
    obtain ⟨before, behind, hcs, hbefore, hbehind⟩ := trim_framed cs
    rw [htrim, List.append_nil] at hcs
    rw [hcs]
    exact List.forall_mem_append.2 ⟨hbefore, hbehind⟩
  · intro hblank
    have hstart : trimStart cs = [] := List.dropWhile_eq_nil_iff.2 hblank
    rw [trim, hstart]
    rfl

end Text

namespace Decimal

theorem value?_eq_some_iff {cs : List Char} {n : ℕ} :
    value? cs = some n ↔ (∀ c ∈ cs, c.isDigit = true) ∧ cs ≠ [] ∧ denoted cs = n := by
  unfold value?
  rw [value_eq_denoted, ← List.all_eq_true]
  split
  · rename_i h
    simp [h]
  · rename_i h
    constructor
    · intro hnone
      cases hnone
    · rintro ⟨hdigits, hsome, -⟩
      exact absurd ⟨hsome, hdigits⟩ h

theorem unsigned?_plus {bound n : ℕ} {ds : List Char} :
    unsigned? bound ('+' :: ds) = some n ↔ value? ds = some n ∧ n < bound := by
  unfold unsigned?
  cases hvalue : value? ds with
  | none => simp [hvalue]
  | some m =>
    simp only [hvalue, Option.ite_none_right_eq_some, Option.some.injEq]
    constructor
    · rintro ⟨hlt, rfl⟩
      exact ⟨rfl, hlt⟩
    · rintro ⟨rfl, hlt⟩
      exact ⟨hlt, rfl⟩

theorem unsigned?_plain {bound n : ℕ} {ds : List Char} (h : ds.head? ≠ some '+') :
    unsigned? bound ds = some n ↔ value? ds = some n ∧ n < bound := by
  have hplus : unsigned? bound ds = unsigned? bound ('+' :: ds) := by
    unfold unsigned?
    split
    · exact absurd rfl h
    · rfl
  rw [hplus, unsigned?_plus]

/-- What is read is digits with at most a plus in front. -/
theorem unsigned?_eq_some_iff {bound n : ℕ} {cs : List Char} :
    unsigned? bound cs = some n ↔ ∃ sign ds, (sign = [] ∨ sign = ['+']) ∧ cs = sign ++ ds ∧
      (∀ c ∈ ds, c.isDigit = true) ∧ ds ≠ [] ∧ denoted ds = n ∧ n < bound := by
  constructor
  · intro h
    by_cases hplus : cs.head? = some '+'
    · obtain ⟨ds, rfl⟩ := List.head?_eq_some_iff.1 hplus
      obtain ⟨hvalue, hlt⟩ := unsigned?_plus.1 h
      obtain ⟨hdigits, hsome, hn⟩ := value?_eq_some_iff.1 hvalue
      exact ⟨['+'], ds, .inr rfl, rfl, hdigits, hsome, hn, hlt⟩
    · obtain ⟨hvalue, hlt⟩ := (unsigned?_plain hplus).1 h
      obtain ⟨hdigits, hsome, hn⟩ := value?_eq_some_iff.1 hvalue
      exact ⟨[], cs, .inl rfl, rfl, hdigits, hsome, hn, hlt⟩
  · rintro ⟨sign, ds, hsign, rfl, hdigits, hsome, hn, hlt⟩
    have hvalue := value?_eq_some_iff.2 ⟨hdigits, hsome, hn⟩
    rcases hsign with rfl | rfl
    · refine (unsigned?_plain fun hplus => ?_).2 ⟨hvalue, hlt⟩
      have hdigit := hdigits '+' (List.mem_of_head? hplus)
      exact absurd hdigit (by decide)
    · exact unsigned?_plus.2 ⟨hvalue, hlt⟩

end Decimal

namespace FileStore

/-- A text is read as the height that it states. -/
theorem heightOf_eq_ok_iff {cs : List Char} {n : ℕ} : heightOf (String.ofList cs) = .ok n ↔ StatesHeight cs n := by
  have hbound : UInt64.size = 2 ^ 64 := rfl
  unfold heightOf
  rw [String.toList_ofList]
  dsimp only
  constructor
  · intro h
    split at h
    · rename_i htrim
      cases h
      exact .blank (Text.trim_eq_nil_iff.1 htrim)
    · split at h
      · rename_i m hread
        cases h
        obtain ⟨sign, ds, hsign, hbody, hdigits, hsome, rfl, hlt⟩ := Decimal.unsigned?_eq_some_iff.1 hread
        have hframed := Text.trim_framed cs
        rw [hbody] at hframed
        exact .number hsign hdigits hsome hframed (hbound ▸ hlt)
      · cases h
  · intro h
    cases h with
    | blank hblank => rw [if_pos (Text.trim_eq_nil_iff.2 hblank)]
    | @number sign ds _ hsign hdigits hsome hframed hlt =>
      -- Neither a digit nor a plus is a blank, so trimming takes off the frame and no more.
      have hbody : sign ++ ds ≠ [] := by simp [hsome]
      have hnonblank : ∀ c ∈ sign ++ ds, Text.isBlank c = false := by
        refine List.forall_mem_append.2 ⟨?_, fun c hc => isBlank_of_isDigit (hdigits c hc)⟩
        rcases hsign with rfl | rfl
        · exact List.forall_mem_nil _
        · simp [Text.isBlank]
      have hread := Decimal.unsigned?_eq_some_iff.2 ⟨sign, ds, hsign, rfl, hdigits, hsome, rfl, hbound ▸ hlt⟩
      rw [Text.trim_of_framed hframed hbody hnonblank, if_neg hbody, hread]

/-- A text that states none is corrupt. -/
theorem heightOf_eq_error {cs : List Char} (h : ∀ n, ¬StatesHeight cs n) :
    heightOf (String.ofList cs) = .error (.checkpointCorrupt (Text.quoted '"' (Text.trim cs))) := by
  have hnone (n : ℕ) : heightOf (String.ofList cs) ≠ .ok n := fun hread => h n (heightOf_eq_ok_iff.1 hread)
  -- That it is an error follows from this. Which one it is does not, so both ways to a height are ruled out.
  unfold heightOf at hnone ⊢
  rw [String.toList_ofList] at hnone ⊢
  dsimp only at hnone ⊢
  split
  · rename_i htrim
    exact absurd (if_pos htrim) (hnone 0)
  · rename_i hsome
    simp only [if_neg hsome] at hnone
    split
    · rename_i n hread
      rw [hread] at hnone
      exact absurd rfl (hnone n)
    · rfl

end FileStore

/-! ## Heights in files -/

namespace FileStore
variable {s : FileStore}

theorem readHeight_text {cs : List Char} (h : s.directory.find? heightFile = some (.file (Hex.utf8 cs))) :
    s.readHeight = heightOf (String.ofList cs) := by
  unfold readHeight Directory.readText Directory.read
  rw [h]
  dsimp only
  rw [fromUTF8?_utf8]

theorem readHeight_bytes {b : Bytes} (h : s.directory.find? heightFile = some (.file b)) (hb : ∀ cs, b ≠ Hex.utf8 cs) :
    s.readHeight = .error (ioError .notText) := by
  unfold readHeight Directory.readText Directory.read
  rw [h]
  dsimp only
  rw [fromUTF8?_eq_none hb]

/-- What is read is what the height's file states, and zero where there is none. -/
theorem readHeight_eq_ok_iff {n : ℕ} :
    s.readHeight = .ok n ↔ s.directory.find? heightFile = none ∧ n = 0 ∨
      ∃ cs, s.directory.find? heightFile = some (.file (Hex.utf8 cs)) ∧ StatesHeight cs n := by
  constructor
  · intro hread
    cases hfind : s.directory.find? heightFile with
    | none =>
      unfold readHeight Directory.readText Directory.read at hread
      rw [hfind] at hread
      cases hread
      exact .inl ⟨rfl, rfl⟩
    | some entry =>
      cases entry with
      | folder =>
        unfold readHeight Directory.readText Directory.read at hread
        rw [hfind] at hread
        cases hread
      | file b =>
        by_cases htext : ∃ cs, b = Hex.utf8 cs
        · obtain ⟨cs, rfl⟩ := htext
          rw [readHeight_text hfind] at hread
          exact .inr ⟨cs, rfl, heightOf_eq_ok_iff.1 hread⟩
        · rw [readHeight_bytes hfind (not_exists.1 htext)] at hread
          cases hread
  · rintro (⟨hnone, rfl⟩ | ⟨cs, hfile, hcs⟩)
    · unfold readHeight Directory.readText Directory.read
      rw [hnone]
    · rw [readHeight_text hfile, heightOf_eq_ok_iff.2 hcs]

end FileStore

/-! ## Ticks that cannot read the height -/

/-- The step fetches a block, calls a handler, or writes to the store. -/
def Op.Touches : Op → Prop
  | .ask _ (.blockByHeight _) | .ask _ (.blockByHash _) | .handle _ _ _ => True
  | .openStore _ | .writeHeight _ | .append _ => True
  | _ => False

/-- The height was not read. -/
def Op.Unread : (op : Op) → op.Answer → Prop
  | .readHeight, r => ∃ e, r = .error e
  | _, _ => True

/-- The law of those who touch nothing while the height is not read. -/
def unreadLaw : Law Unit where
  allows _ op := ¬op.Touches
  leads _ op r _ := op.Unread r

theorem leasing_unread {α : Type} {p : Program α} (hp : p.Only Op.OfLease) :
    p.Obeys unreadLaw (fun _ _ => True) () := by
  refine hp.keeps (fun op hop _ _ => ⟨fun htouches => ?_, fun _ _ _ => trivial⟩) trivial
  cases op with
  | take | isClosed | dial | put _ | destroy _ => exact htouches
  | _ => exact hop

/-- What a tick does over its connection ends at the reading of the height. -/
theorem tickOver_unread (scanner : Scanner) (ctx : Context) (c : Connection) :
    (scanner.tickOver ctx c).run.Obeys unreadLaw (fun r _ => ∃ e, r = .error e) () := by
  refine .action (.perform id fun highest _ _ => ?_)
  cases highest with
  | error e => exact ⟨e, rfl⟩
  | ok highest =>
    refine .action (.perform id fun height _ hread => ?_)
    obtain ⟨e, rfl⟩ := hread
    exact ⟨e, rfl⟩

/-- A tick that cannot read the height touches nothing, and ends in an error. -/
theorem tick_unread (scanner : Scanner) (ctx : Context) :
    (scanner.tick ctx).run.Obeys unreadLaw (fun r _ => ∃ e, r = .error e) () := by
  refine .bind (.perform id fun _ _ _ => .bind (.bind ((leasing_unread acquire_steps).mono fun r _ _ => ?_)))
  cases r with
  | error e => exact .bind (.perform id fun _ _ _ => ⟨e, rfl⟩)
  | ok c =>
    refine .bind ((tickOver_unread scanner ctx c).mono fun r _ hr => ?_)
    refine .bind ((leasing_unread (giveBack_steps c)).mono fun _ _ _ => ?_)
    exact .bind (.perform id fun _ _ _ => hr)

/-- A scan of such ticks touches nothing, however many there are. -/
theorem poll_unread (scanner : Scanner) (ctx : Context) (period polls : ℕ) :
    ∀ due, (scanner.poll ctx period polls due).Obeys unreadLaw (fun _ _ => True) () := by
  induction polls with
  | zero => exact fun _ => trivial
  | succ polls ih =>
    intro due
    refine .bind (.perform id fun _ _ _ => .bind (.perform id fun ended _ _ => ?_))
    cases ended with
    | true => exact trivial
    | false =>
      exact .bind (.perform id fun _ _ _ => .bind ((tick_unread scanner ctx).mono fun _ _ _ => ih _))

theorem run_unread (scanner : Scanner) (ctx : Context) (period polls : ℕ) :
    (scanner.run ctx period polls).Obeys unreadLaw (fun _ _ => True) () := by
  unfold Scanner.run
  split
  · exact trivial
  · exact .bind (.perform id fun _ _ _ => poll_unread scanner ctx period polls _)

section Runs
variable {α ν σ : Type} [Node ν] [CheckpointStore σ] {s s' : σ}

/-- What touches nothing leaves the store. -/
theorem Op.Leads.untouched {op : Op} {r : op.Answer} (hop : ¬op.Touches) (h : op.Leads s r s') : s' = s := by
  cases op with
  | readHeight => exact h.2
  | openStore _ | writeHeight _ | append _ => exact absurd trivial hop
  | _ => exact h

theorem perform_unread {w : World ν σ} {e : ClientError} (h : CheckpointStore.readHeight w.store = .error e) (op : Op) :
    op.Unread (w.perform op).1 := by
  cases op with
  | readHeight => exact ⟨e, h⟩
  | _ => exact trivial

/-- What the law says of a program, it says of its run over a store whose height cannot be read. -/
theorem Program.Obeys.unread {p : Program α} {post : α → Unit → Prop} (hp : p.Obeys unreadLaw post ()) {w : World ν σ}
    {e : ClientError} (h : CheckpointStore.readHeight w.store = .error e) :
    post (p.run w).1 () ∧ (∀ step ∈ p.steps w, ¬step.op.Touches) ∧ (p.run w).2.store = w.store := by
  induction p generalizing w with
  | done a => exact ⟨hp, List.forall_mem_nil _, rfl⟩
  | step op next ih =>
    obtain ⟨hop, hnext⟩ := hp
    -- An allowed step leaves the store, so the next reading of the height fails as this one would.
    have hstore : (w.perform op).2.store = w.store := (perform_leads w op).untouched hop
    obtain ⟨hpost, hsteps, hend⟩ := ih _ (hnext _ () (perform_unread h op)) (w := (w.perform op).2) (hstore ▸ h)
    exact ⟨hpost, List.forall_mem_cons.2 ⟨hop, hsteps⟩, hend.trans hstore⟩

namespace TaskSystem

/-- The store is as it was, no step has touched anything, and none has read the height. -/
structure Untouched (store : σ) (s : TaskSystem α ν σ) : Prop where
  store : s.world.store = store
  log : ∀ step ∈ s.log, ¬step.op.Touches ∧ step.op.Unread step.answer

/-- Where each tick stands follows from its steps, all of which found the height unread. -/
theorem Untouched.tick {scanner : ℕ → Scanner} {ctx : ℕ → Context} {store : σ}
    {s : TaskSystem (Except ClientError TickOutcome) ν σ} (hs : s.Untouched store)
    (htraced : Traced (fun task => ((scanner task).tick (ctx task)).run) store s) (task : ℕ) :
    (s.rest task).Obeys unreadLaw (fun r _ => ∃ e, r = .error e) () :=
  (htraced.ran task).obeys_answered (fun _ _ _ => ()) (tick_unread _ _)
    fun step hstep _ => (hs.log step (List.mem_of_mem_filter hstep)).2

section Ticks
variable (scanner : ℕ → Scanner) (ctx : ℕ → Context) {w : World ν σ} {e : ClientError}
  (h : CheckpointStore.readHeight w.store = .error e) (moves : List (TaskMove ν σ))
include h

theorem ticks_untouched :
    Traced (fun task => ((scanner task).tick (ctx task)).run) w.store ((ticks scanner ctx w).run moves) ∧
      Untouched w.store ((ticks scanner ctx w).run moves) := by
  refine run_induct ⟨rfl, List.forall_mem_nil _⟩ ?_ (fun _ _ hs => ⟨hs.store, hs.log⟩) moves
  rintro s task op next htraced hrest - hs
  have hobeys := hs.tick htraced task
  rw [hrest] at hobeys
  have hunread : op.Unread (s.world.perform op).1 := perform_unread (hs.store ▸ h) op
  refine ⟨((perform_leads s.world op).untouched hobeys.1).trans hs.store, ?_⟩
  exact List.forall_mem_append.2 ⟨hs.log, List.forall_mem_singleton.2 ⟨hobeys.1, hunread⟩⟩

/-- Ticks of any scanners at the same time, over a store whose height cannot be read: none of their steps touches
anything, and those that have ended have ended in an error. -/
theorem ticks_unread :
    let after := (ticks scanner ctx w).run moves
    (∀ step ∈ after.log, ¬step.op.Touches) ∧ after.world.store = w.store ∧
      ∀ task (r : Except ClientError TickOutcome), after.rest task = .done r → ∃ e, r = .error e := by
  intro after
  obtain ⟨htraced, hafter⟩ := ticks_untouched scanner ctx h moves
  refine ⟨fun step hstep => (hafter.log step hstep).1, hafter.store, fun task r hr => ?_⟩
  have hobeys := hafter.tick htraced task
  rw [hr] at hobeys
  exact hobeys

end Ticks
end TaskSystem
end Runs

/-! ## Damaged files -/

/-- A damaged height stops a scan. -/
theorem damaged_height_stops_scans (s : FileStore) :
    (∀ n, s.readHeight = .ok n ↔ s.directory.find? FileStore.heightFile = none ∧ n = 0 ∨
      ∃ cs, s.directory.find? FileStore.heightFile = some (.file (Hex.utf8 cs)) ∧ StatesHeight cs n) ∧
    (∀ cs, s.directory.find? FileStore.heightFile = some (.file (Hex.utf8 cs)) → (∀ n, ¬StatesHeight cs n) →
      s.readHeight = .error (.checkpointCorrupt (Text.quoted '"' (Text.trim cs)))) ∧
    (∀ b, s.directory.find? FileStore.heightFile = some (.file b) → (∀ cs, b ≠ Hex.utf8 cs) →
      s.readHeight = .error (.io FileError.notText.message)) ∧
    ∀ e, s.readHeight = .error e → ∀ (ν : Type) [Node ν] (w : World ν FileStore), w.store = s →
      (∀ (scanner : Scanner) (ctx : Context),
        (∃ e, ((scanner.tick ctx).run.run w).1 = .error e) ∧
        (∀ step ∈ (scanner.tick ctx).run.steps w, ¬step.op.Touches) ∧
        ((scanner.tick ctx).run.run w).2.store = s) ∧
      (∀ (scanner : Scanner) (ctx : Context) (period polls : ℕ),
        (∀ step ∈ (scanner.run ctx period polls).steps w, ¬step.op.Touches) ∧
        ((scanner.run ctx period polls).run w).2.store = s) ∧
      ∀ (scanner : ℕ → Scanner) (ctx : ℕ → Context) (moves : List (TaskMove ν FileStore)),
        let after := (TaskSystem.ticks scanner ctx w).run moves
        (∀ step ∈ after.log, ¬step.op.Touches) ∧ after.world.store = s ∧
          ∀ task (r : Except ClientError TickOutcome), after.rest task = .done r → ∃ e, r = .error e := by
  refine ⟨fun n => FileStore.readHeight_eq_ok_iff, fun cs hfile hnone => ?_,
    fun b hfile hb => FileStore.readHeight_bytes hfile hb, ?_⟩
  · rw [FileStore.readHeight_text hfile, FileStore.heightOf_eq_error hnone]
  · intro e hread ν _ w hstore
    subst hstore
    refine ⟨fun scanner ctx => (tick_unread scanner ctx).unread hread, fun scanner ctx period polls => ?_,
      fun scanner ctx moves => TaskSystem.ticks_unread scanner ctx hread moves⟩
    exact ((run_unread scanner ctx period polls).unread hread).2

/-- The first number that 64 bits do not hold. -/
def boundText : List Char := "18446744073709551616".toList

def overflowedStore : FileStore := ⟨⟨[(FileStore.heightFile, .file (Hex.utf8 boundText))]⟩⟩

/-- A scanner that has blocks to go over leaves such a height as it is. -/
theorem damaged_height_stops_scans_overflowed :
    overflowedStore.readHeight = .error (.checkpointCorrupt (Text.quoted '"' boundText)) ∧
    let w : World SimulatedNode FileStore := .initial cancellableWorld.node 1 overflowedStore
    (∃ e, ((cancellingScanner.tick (.withHandle 0)).run.run w).1 = .error e) ∧
      (∀ step ∈ (cancellingScanner.tick (.withHandle 0)).run.steps w, ¬step.op.Touches) ∧
      ((cancellingScanner.run (.withHandle 0) 1 7).run w).2.store = overflowedStore := by
  obtain ⟨-, hcorrupt, -, hstops⟩ := damaged_height_stops_scans overflowedStore
  have htrim : Text.trim boundText = boundText := by decide
  have hnone : ∀ n, ¬StatesHeight boundText n := by
    intro n hn
    have hread : (FileStore.heightOf (String.ofList boundText)).toOption = none := by decide +kernel
    rw [FileStore.heightOf_eq_ok_iff.2 hn] at hread
    cases hread
  have hdamaged := htrim ▸ hcorrupt boundText rfl hnone
  obtain ⟨hticks, hruns, -⟩ := hstops _ hdamaged SimulatedNode (.initial cancellableWorld.node 1 overflowedStore) rfl
  obtain ⟨herror, hsteps, -⟩ := hticks cancellingScanner (.withHandle 0)
  exact ⟨hdamaged, herror, hsteps, (hruns cancellingScanner (.withHandle 0) 1 7).2⟩

end EvmClient
