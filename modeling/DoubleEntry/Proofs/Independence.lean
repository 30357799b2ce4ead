import DoubleEntry.Proofs.Lifecycle
import DoubleEntry.Proofs.Replies
import DoubleEntry.Proofs.Unseen

/-!
# Operations that do not concern each other

A posting or a taking back reads the rows of its own transaction, the accounts there are and the balances of those
it moves, and it writes rows of its own transaction only. So of two such operations, on different transactions and
on accounts of which they have none in common, neither sees what the other has done: each is answered the same
whether it comes first or second, and in the end the same rows are there. This holds along every way that an
operation can end, also where the store misbehaves, as long as each operation meets the same troubles in either order.
-/

namespace DoubleEntry

open Time

/-! ## Books that one operation cannot tell apart -/

/-- The books are the same as far as one transaction is concerned and the accounts that are seen. -/
structure Book.Alike (id : TransactionId) (seen : AccountId → Prop) (b b' : Book) : Prop where
  accounts : b'.accounts = b.accounts
  /-- The headers of the transaction are the same. -/
  headers : b'.headersOf id = b.headersOf id
  /-- So are its lines. -/
  lines : b'.linesOf id = b.linesOf id
  /-- The accounts that are seen have the same balances. -/
  balance : ∀ a, seen a → b'.balance a = b.balance a

/-- Alike books in which the accounts of the transaction are all seen. -/
def Book.AlikeThroughout (id : TransactionId) (seen : AccountId → Prop) (b b' : Book) : Prop :=
  b.Alike id seen b' ∧ ∀ l ∈ b.linesOf id, seen l.account

namespace Book

variable {b b' : Book} {id : TransactionId} {seen : AccountId → Prop}

/-- Lines that are added add their shares. -/
theorem balance_append (b : Book) (rows : List LineRow) (a : AccountId) :
    { b with lines := b.lines ++ rows }.balance a =
      b.balance a + (rows.map (LineRow.share a)).sum := by
  rw [balance_eq_sum, balance_eq_sum, List.map_append, List.sum_append]

/-- Marking the lines of a transaction takes their shares away. -/
theorem balance_markLines (b : Book) (id : TransactionId) (moment : Timestamp) (a : AccountId) :
    { b with lines := b.lines.map (LineRow.mark id moment) }.balance a =
      b.balance a - ((b.linesOf id).map (LineRow.share a)).sum :=
  b.balance_strike id moment a

theorem alike_clearing : Unseen.Clearing (Book.Alike id seen) seen where
  locked h wanted := by rw [liveAccounts, liveAccounts, h.accounts]
  balance h := fun ha => h.balance _ ha

/-- **A posting sees of the books no more than what is alike.** -/
theorem alike_posting : Unseen.Posting (Book.Alike id seen) id seen where
  toClearing := alike_clearing
  hasHeader h := by
    rw [Bool.eq_iff_iff, hasHeader_iff_headersOf, hasHeader_iff_headersOf, h.headers]
  hasLine {b b'} h n := by
    have hof : ∀ x : Book, x.hasLine id n = true ↔ ∃ l ∈ x.linesOf id, l.number = n := by
      intro x
      rw [hasLine_iff]
      simp only [mem_linesOf, and_assoc]
    rw [Bool.eq_iff_iff, hof b', hof b, h.lines]
  addHeader h row _ := by
    refine ⟨h.accounts, ?_, h.lines, h.balance⟩
    have hheaders := h.headers
    unfold headersOf at hheaders ⊢
    rw [List.filter_append, List.filter_append, hheaders]
  addLine {b b'} h row _ _ := by
    refine ⟨h.accounts, h.headers, ?_, fun a ha => ?_⟩
    · have hlines := h.lines
      unfold linesOf at hlines ⊢
      rw [List.filter_append, List.filter_append, hlines]
    · rw [b'.balance_append, b.balance_append, h.balance a ha]

/-- **So does a taking back**, if it sees the accounts of the transaction. -/
theorem alike_reversal : Unseen.Reversal (Book.AlikeThroughout id seen) id seen where
  locked h := alike_clearing.locked h.1
  balance h := alike_clearing.balance h.1
  liveHeaders h := by rw [h.1.headers]
  linesAlive h := by rw [h.1.lines]
  involved h := h.2
  markHeaders {b b'} h moment := by
    obtain ⟨hbooks, hseen⟩ := h
    have hof : ∀ x : Book, { x with headers := x.headers.map (HeaderRow.mark id moment) }.headersOf id =
        (x.headersOf id).map (HeaderRow.mark id moment) :=
      fun x => (Marked.strike x id moment).headersOf id
    refine ⟨⟨hbooks.accounts, ?_, hbooks.lines, hbooks.balance⟩, hseen⟩
    rw [hof b', hof b, hbooks.headers]
  markLines {b b'} h moment := by
    obtain ⟨hbooks, hseen⟩ := h
    have hof : ∀ x : Book, { x with lines := x.lines.map (LineRow.mark id moment) }.linesOf id =
        (x.linesOf id).map (LineRow.mark id moment) :=
      fun x => x.linesOf_strike id moment id
    refine ⟨⟨hbooks.accounts, hbooks.headers, ?_, fun a ha => ?_⟩, fun l hl => ?_⟩
    · rw [hof b', hof b, hbooks.lines]
    · rw [b'.balance_markLines, b.balance_markLines, hbooks.lines, hbooks.balance a ha]
    · rw [hof b] at hl
      obtain ⟨k, hk, rfl⟩ := List.mem_map.mp hl
      rw [LineRow.mark_account]
      exact hseen k hk

end Book

/-! ## What an operation moves -/

namespace Operation

/-- The accounts involved: those of the lines proposed, or of the lines of the transaction to be taken back. -/
def Moves (b : Book) : Operation → AccountId → Prop
  | create _ _, _ => False
  | post _ _ _ p, a => ∃ l ∈ p.lines, (⟨l.account⟩ : AccountId) = a
  | delete _ _ id, a => b.Involves id a

variable {o : Operation} {id : TransactionId} {d : Desk} {b : Book}

/-- An operation leaves the accounts and the rows of other transactions as they are. -/
theorem Makes.spares {b' : Book} (h : o.Makes d b b') (ho : o.Concerns id) :
    b'.accounts = b.accounts ∧
      ∀ i, i ≠ id → b'.headersOf i = b.headersOf i ∧ b'.linesOf i = b.linesOf i := by
  cases h with
  | opened _ _ _ => exact ho.elim
  | @entered _ _ _ _ posted _ hid _ _ =>
      obtain rfl : posted.transaction.id = id := hid.trans ho
      exact ⟨rfl, fun i hi => ⟨Book.headersOf_enter_other hi, Book.linesOf_enter_other hi⟩⟩
  | @marked _ _ i _ _ _ hmarked =>
      obtain rfl : i = id := ho
      exact ⟨hmarked.accounts, fun j hj => hmarked.rows_of_other hj⟩

/-- It leaves the balances of accounts that it does not involve as they are. -/
theorem Makes.balance_apart {b' : Book} (h : o.Makes d b b') (ho : o.Concerns id) {a : AccountId}
    (hapart : ¬ o.Moves b a) : b'.balance a = b.balance a := by
  cases h with
  | opened _ _ _ => exact ho.elim
  | @entered policy deadline m p posted hanswer _ _ _ =>
      have hpost : Desk.post policy deadline m p d = (.ok posted, (Desk.post policy deadline m p d).2) :=
        Prod.ext hanswer rfl
      have huntouched : posted.transaction.touches a = false := by
        by_contra htouched
        obtain ⟨l, hl, rfl⟩ := Transaction.touches_iff.mp (by simpa using htouched)
        have hmem : l.account ∈ posted.transaction.lines.map Line.account := List.mem_map_of_mem hl
        rw [Desk.post_accounts hpost] at hmem
        exact hapart (List.mem_map.mp hmem)
      rw [b.balance_enter, Transaction.net_of_untouched huntouched, Int.add_zero]
  | @marked _ now i b' _ _ hmarked =>
      -- no line that may be marked is on the account
      have hnone : ((b.linesOf i).map (LineRow.share a)).sum = 0 := by
        refine List.sum_eq_zero fun x hx => ?_
        obtain ⟨l, hl, rfl⟩ := List.mem_map.mp hx
        rw [LineRow.share_eq]
        exact if_neg fun hon => hapart ⟨l, hl, hon⟩
      rcases hmarked.lines with hsame | hall
      · unfold Book.balance
        rw [hsame]
      · have hbalance := b.balance_markLines i now.asKept a
        rw [hnone, Int.sub_zero] at hbalance
        rw [← hbalance]
        unfold Book.balance
        rw [hall]

/-- What the operation leaves: the accounts and the rows of other transactions, and balances it does not involve. -/
theorem run_spares (hb : d.store.book = some b) (ho : o.Concerns id) :
    ∃ b', (o.run d).store = { d.store with book := some b' } ∧ b'.accounts = b.accounts ∧
      (∀ i, i ≠ id → b'.headersOf i = b.headersOf i ∧ b'.linesOf i = b.linesOf i) ∧
      ∀ a, ¬ o.Moves b a → b'.balance a = b.balance a := by
  rcases o.outcome d with ⟨hsame, _⟩ | ⟨_, b₁, b', hb₁, hmade, hstore⟩
  · exact ⟨b, by rw [hsame, ← hb], rfl, fun _ _ => ⟨rfl, rfl⟩, fun _ _ => rfl⟩
  · obtain rfl : b₁ = b := Option.some.inj (hb₁.symm.trans hb)
    obtain ⟨haccounts, hrows⟩ := hmade.spares ho
    exact ⟨b', hstore, haccounts, hrows, fun _ hapart => hmade.balance_apart ho hapart⟩

/-- **The operation does not tell alike books apart**, and makes alike books of them. -/
theorem Concerns.agrees (ho : o.Concerns id) {d' : Desk} (hb : d.store.book = some b)
    (h : d.Beside (Book.Alike id (o.Moves b)) d') :
    o.reply d' = o.reply d ∧ (o.run d).Beside (Book.Alike id (o.Moves b)) (o.run d') := by
  cases o with
  | create _ _ => exact ho.elim
  | post policy deadline m p =>
      obtain rfl : p.identity ⟨m.fresh⟩ = id := ho
      have hwork : (Desk.post policy deadline m p).Agrees
          (Book.Alike (p.identity ⟨m.fresh⟩) ((post policy deadline m p).Moves b)) :=
        Desk.post_agrees_of Book.alike_posting fun l hl => ⟨l, hl, rfl⟩
      exact ⟨congrArg Reply.posted (hwork.answer h), hwork.beside h⟩
  | delete policy now i =>
      obtain rfl : i = id := ho
      obtain ⟨b', hb', halike⟩ := h.store.exists_book hb
      have hwork : (Desk.delete policy now i).Agrees
          (Book.AlikeThroughout i ((delete policy now i).Moves b)) :=
        Desk.delete_agrees_of Book.alike_reversal
      have hcovered : d.Beside (Book.AlikeThroughout i ((delete policy now i).Moves b)) d' := by
        refine ⟨⟨?_, h.store.versions⟩, h.plan, h.online, h.unended⟩
        rw [hb, hb']
        exact .some ⟨halike, fun l hl => ⟨l, hl, rfl⟩⟩
      have hafter := hwork.beside hcovered
      have hstores : (Desk.delete policy now i d).2.store.Beside
          (Book.Alike i ((delete policy now i).Moves b)) (Desk.delete policy now i d').2.store :=
        hafter.store.imp fun _ _ hboth => hboth.1
      exact ⟨congrArg Reply.deleted (hwork.answer hcovered), hstores, hafter.plan, hafter.online,
        hafter.unended⟩

end Operation

/-! ## The same rows -/

/-- The same rows are there, if perhaps in another order. -/
structure Book.SameRows (b b' : Book) : Prop where
  accounts : b'.accounts = b.accounts
  headers : b'.headers.Perm b.headers
  lines : b'.lines.Perm b.lines

/-- The stores hold the same rows, and the same versions are installed. -/
def Store.SameRows : Store → Store → Prop := Store.Beside Book.SameRows

/-- Rows are the same up to order if they are the same under every key. -/
theorem perm_of_keys {α κ : Type} [DecidableEq α] [DecidableEq κ] (key : α → κ) {rows rows' : List α}
    (h : ∀ k, (rows'.filter fun x => key x = k) = rows.filter fun x => key x = k) :
    rows'.Perm rows := by
  refine List.perm_iff_count.mpr fun a => ?_
  have hkept : ∀ l : List α, (l.filter fun x => key x = key a).count a = l.count a :=
    fun l => List.count_filter (p := fun x => decide (key x = key a)) (decide_eq_true rfl)
  rw [← hkept rows', h, hkept]

theorem Book.SameRows.of_rows {b b' : Book} (haccounts : b'.accounts = b.accounts)
    (hrows : ∀ id, b'.headersOf id = b.headersOf id ∧ b'.linesOf id = b.linesOf id) :
    b.SameRows b' where
  accounts := haccounts
  headers := perm_of_keys HeaderRow.id fun id => (hrows id).1
  lines := perm_of_keys LineRow.transaction fun id => (hrows id).2

/-! ## Either order -/

namespace Operation

variable {s : Store} {b : Book} {o₁ o₂ : Operation} {id₁ id₂ : TransactionId}

/-- Nothing is seen by the second operation of what the first has done. -/
theorem reply_after (hb : s.book = some b) (h₁ : o₁.Concerns id₁) (h₂ : o₂.Concerns id₂)
    (hne : id₂ ≠ id₁) (hdisjoint : ∀ a, o₂.Moves b a → ¬ o₁.Moves b a) (c₁ c₂ : Desk) :
    o₂.reply (c₂.restore (o₁.run (c₁.restore s)).store) = o₂.reply (c₂.restore s) ∧
      (o₂.run (c₂.restore s)).store.Beside (Book.Alike id₂ (o₂.Moves b))
        (o₂.run (c₂.restore (o₁.run (c₁.restore s)).store)).store := by
  obtain ⟨b₁, hstore, haccounts, hrows, hbalances⟩ := run_spares (d := c₁.restore s) hb h₁
  obtain ⟨hheaders, hlines⟩ := hrows id₂ hne
  have halike : b.Alike id₂ (o₂.Moves b) b₁ :=
    ⟨haccounts, hheaders, hlines, fun a ha => hbalances a (hdisjoint a ha)⟩
  have hdesks : (c₂.restore s).Beside (Book.Alike id₂ (o₂.Moves b))
      (c₂.restore (o₁.run (c₁.restore s)).store) := by
    refine ⟨⟨?_, by rw [hstore]; rfl⟩, rfl, rfl, rfl⟩
    rw [hstore]
    exact hb ▸ .some halike
  obtain ⟨hreply, hafter⟩ := h₂.agrees (d := c₂.restore s) hb hdesks
  exact ⟨hreply, hafter.store⟩

/-- **In either order the same rows are there in the end.** -/
theorem same_rows (hb : s.book = some b) (h₁ : o₁.Concerns id₁) (h₂ : o₂.Concerns id₂)
    (hne : id₁ ≠ id₂) (hdisjoint : ∀ a, o₁.Moves b a → ¬ o₂.Moves b a) (c₁ c₂ : Desk) :
    Store.SameRows (o₂.run (c₂.restore (o₁.run (c₁.restore s)).store)).store
      (o₁.run (c₁.restore (o₂.run (c₂.restore s)).store)).store := by
  have hapart : ∀ a, o₂.Moves b a → ¬ o₁.Moves b a := fun a h₂ h₁ => hdisjoint a h₁ h₂
  have hlast₂ := (reply_after hb h₁ h₂ hne.symm hapart c₁ c₂).2
  have hlast₁ := (reply_after hb h₂ h₁ hne hdisjoint c₂ c₁).2
  obtain ⟨b₁, hs₁, haccounts₁, hrows₁, _⟩ := run_spares (d := c₁.restore s) hb h₁
  obtain ⟨b₂, hs₂, haccounts₂, hrows₂, _⟩ := run_spares (d := c₂.restore s) hb h₂
  obtain ⟨b₁₂, hs₁₂, haccounts₁₂, hrows₁₂, _⟩ :=
    run_spares (d := c₂.restore (o₁.run (c₁.restore s)).store) (by rw [hs₁]; rfl) h₂
  obtain ⟨b₂₁, hs₂₁, haccounts₂₁, hrows₂₁, _⟩ :=
    run_spares (d := c₁.restore (o₂.run (c₂.restore s)).store) (by rw [hs₂]; rfl) h₁
  have hsame₂ : b₂.Alike id₂ (o₂.Moves b) b₁₂ :=
    hlast₂.related (by rw [hs₂]) (by rw [hs₁₂])
  have hsame₁ : b₁.Alike id₁ (o₁.Moves b) b₂₁ :=
    hlast₁.related (by rw [hs₁]) (by rw [hs₂₁])
  have hrows : ∀ i, b₂₁.headersOf i = b₁₂.headersOf i ∧ b₂₁.linesOf i = b₁₂.linesOf i := by
    intro i
    by_cases hi₂ : i = id₂
    · -- the rows of the second transaction are what the second operation makes of them alone
      subst hi₂
      obtain ⟨hheaders, hlines⟩ := hrows₂₁ i hne.symm
      exact ⟨by rw [hheaders, hsame₂.headers], by rw [hlines, hsame₂.lines]⟩
    · obtain ⟨hheaders₁₂, hlines₁₂⟩ := hrows₁₂ i hi₂
      rw [hheaders₁₂, hlines₁₂]
      by_cases hi₁ : i = id₁
      · subst hi₁
        exact ⟨hsame₁.headers, hsame₁.lines⟩
      · obtain ⟨hheaders₂₁, hlines₂₁⟩ := hrows₂₁ i hi₁
        obtain ⟨hheaders₁, hlines₁⟩ := hrows₁ i hi₁
        obtain ⟨hheaders₂, hlines₂⟩ := hrows₂ i hi₂
        exact ⟨by rw [hheaders₂₁, hheaders₂, hheaders₁], by rw [hlines₂₁, hlines₂, hlines₁]⟩
  have haccounts : b₂₁.accounts = b₁₂.accounts := by
    rw [haccounts₂₁, haccounts₂, haccounts₁₂, haccounts₁]
  unfold Store.SameRows
  rw [hs₁₂, hs₂₁, hs₁, hs₂]
  exact ⟨.some (.of_rows haccounts hrows), rfl⟩

end Operation

/-! ## One connection -/

/-- What is done wholly or not at all begins by ending what was given up before. -/
theorem Desk.settle_ready {α : Type} {d : Desk} (h : d.Calm) (scope : Scope) (work : Work Stop α) :
    settle scope work d.ready = settle scope work d := by
  unfold settle
  rw [openTransaction_calm h, openTransaction_calm h.ready]
  rfl

/-- At a calm desk it makes no difference to an operation whether a transaction was given up before. -/
theorem Operation.Concerns.at_ready {o : Operation} {id : TransactionId} (ho : o.Concerns id) {d : Desk}
    (h : d.Calm) : o.reply d.ready = o.reply d ∧ (o.run d.ready).store = (o.run d).store := by
  cases o with
  | create _ _ => exact ho.elim
  | post policy deadline m p =>
      dsimp only [reply, run]
      unfold Desk.post
      cases p.check m.now ⟨m.fresh⟩ with
      | error e => exact ⟨rfl, rfl⟩
      | ok t =>
          dsimp only
          rw [show d.ready.online = d.online from rfl]
          split
          · exact ⟨rfl, rfl⟩
          · rw [Desk.persist_eq, Work.bind_apply, Work.bind_apply, Desk.settle_ready h]
            exact ⟨rfl, rfl⟩
  | delete policy now i =>
      dsimp only [reply, run]
      unfold Desk.delete
      rw [Desk.settle_ready h]
      exact ⟨rfl, rfl⟩

/-- A turn at which nothing goes wrong. -/
def Operation.undisturbed (o : Operation) : Turn := ⟨.operation o, [], true⟩

/-- A new connection at which nothing goes wrong. -/
def Store.connect (s : Store) : Desk := ⟨s, [], true, false⟩

theorem Operation.Concerns.at_connection {o : Operation} {id : TransactionId} (ho : o.Concerns id)
    (d : Desk) : o.reply (d.facing o.undisturbed) = o.reply d.store.connect ∧
      (o.run (d.facing o.undisturbed)).store = (o.run d.store.connect).store := by
  have hcalm : (d.facing o.undisturbed).Calm := ⟨rfl, fun x hx => absurd hx List.not_mem_nil⟩
  obtain ⟨hreply, hstore⟩ := ho.at_ready hcalm
  exact ⟨hreply.symm, hstore.symm⟩

/--
**Operations on different transactions and different accounts commute.** Each is answered the same whether it comes
first or second, and in the end the same rows are there. That holds on two connections, with whatever is planned to
go wrong on either, and on a single one where nothing goes wrong.
-/
theorem independent_operations_commute {s : Store} {b : Book} (hb : s.book = some b)
    {o₁ o₂ : Operation} {id₁ id₂ : TransactionId} (h₁ : o₁.Concerns id₁) (h₂ : o₂.Concerns id₂)
    (hne : id₁ ≠ id₂) (hdisjoint : ∀ a, o₁.Moves b a → ¬ o₂.Moves b a) :
    (∀ c₁ c₂ : Desk,
      o₁.reply (c₁.restore (o₂.run (c₂.restore s)).store) = o₁.reply (c₁.restore s) ∧
      o₂.reply (c₂.restore (o₁.run (c₁.restore s)).store) = o₂.reply (c₂.restore s) ∧
      Store.SameRows (o₂.run (c₂.restore (o₁.run (c₁.restore s)).store)).store
        (o₁.run (c₁.restore (o₂.run (c₂.restore s)).store)).store) ∧
    ∀ d : Desk, d.store = s → ∃ r₁ r₂,
      d.replies [o₁.undisturbed, o₂.undisturbed] = [r₁, r₂] ∧
      d.replies [o₂.undisturbed, o₁.undisturbed] = [r₂, r₁] ∧
      Store.SameRows (d.through [o₁.undisturbed, o₂.undisturbed]).store
        (d.through [o₂.undisturbed, o₁.undisturbed]).store := by
  have hapart : ∀ a, o₂.Moves b a → ¬ o₁.Moves b a := fun a h₂ h₁ => hdisjoint a h₁ h₂
  refine ⟨fun c₁ c₂ => ⟨?_, ?_, ?_⟩, fun d hd => ?_⟩
  · exact (Operation.reply_after hb h₂ h₁ hne hdisjoint c₂ c₁).1
  · exact (Operation.reply_after hb h₁ h₂ hne.symm hapart c₁ c₂).1
  · exact Operation.same_rows hb h₁ h₂ hne hdisjoint c₁ c₂
  · -- without troubles one connection is as good as two
    subst hd
    obtain ⟨hfirst₁, hstore₁⟩ := h₁.at_connection d
    obtain ⟨hfirst₂, hstore₂⟩ := h₂.at_connection d
    obtain ⟨hsecond₁, hlast₁⟩ := h₁.at_connection (o₂.run (d.facing o₂.undisturbed))
    obtain ⟨hsecond₂, hlast₂⟩ := h₂.at_connection (o₁.run (d.facing o₁.undisturbed))
    rw [hstore₂] at hsecond₁ hlast₁
    rw [hstore₁] at hsecond₂ hlast₂
    have hreply₁ := (Operation.reply_after hb h₂ h₁ hne hdisjoint d.store.connect d.store.connect).1
    have hreply₂ := (Operation.reply_after hb h₁ h₂ hne.symm hapart d.store.connect d.store.connect).1
    have hrows := Operation.same_rows hb h₁ h₂ hne hdisjoint d.store.connect d.store.connect
    refine ⟨o₁.reply d.store.connect, o₂.reply d.store.connect, ?_, ?_, ?_⟩
    · exact congrArg₂ (fun x y => [x, y]) hfirst₁ (hsecond₂.trans hreply₂)
    · exact congrArg₂ (fun x y => [x, y]) hfirst₂ (hsecond₁.trans hreply₁)
    · rw [show (d.through [o₁.undisturbed, o₂.undisturbed]).store = _ from hlast₂,
        show (d.through [o₂.undisturbed, o₁.undisturbed]).store = _ from hlast₁]
      exact hrows

namespace Specimen

/-- Books with four accounts and no transaction. -/
def fourfold : Book := ⟨[account "a", account "b", account "c", account "d"], [], []⟩

/-- A transfer between the other two of the four accounts. -/
def elsewhere : Proposal :=
  ⟨some ⟨"w"⟩, none, [⟨"c", "transfer", five⟩, ⟨"d", "transfer", minusFive⟩]⟩

/-- The books after a transfer between the first two. -/
def settled : Store :=
  ((Operation.post .standard none moment (transfer "t" five minusFive)).run
    (Store.connect ⟨some fourfold, none⟩)).store

end Specimen

/-- The one transfer is taken back and the other posted, in either order. -/
theorem independent_operations_commute_specimen :
    ∃ r₁ r₂, Specimen.settled.connect.replies
        [(Operation.delete .standard Specimen.noon ⟨"t"⟩).undisturbed,
          (Operation.post .standard none Specimen.moment Specimen.elsewhere).undisturbed] = [r₁, r₂] ∧
      Specimen.settled.connect.replies
        [(Operation.post .standard none Specimen.moment Specimen.elsewhere).undisturbed,
          (Operation.delete .standard Specimen.noon ⟨"t"⟩).undisturbed] = [r₂, r₁] := by
  have hbook : Specimen.settled.book = some (Specimen.settled.book.getD .empty) := by decide
  have hdeletion : (Operation.delete .standard Specimen.noon ⟨"t"⟩).Concerns ⟨"t"⟩ := rfl
  have hposting : (Operation.post .standard none Specimen.moment Specimen.elsewhere).Concerns ⟨"w"⟩ := by
    have hid : Specimen.elsewhere.identity ⟨Specimen.moment.fresh⟩ = ⟨"w"⟩ := by decide
    exact hid
  have hdisjoint : ∀ a,
      (Operation.delete .standard Specimen.noon ⟨"t"⟩).Moves (Specimen.settled.book.getD .empty) a →
      ¬ (Operation.post .standard none Specimen.moment Specimen.elsewhere).Moves
        (Specimen.settled.book.getD .empty) a := by
    have hapart : ∀ l ∈ (Specimen.settled.book.getD .empty).linesOf ⟨"t"⟩,
        ∀ q ∈ Specimen.elsewhere.lines, (⟨q.account⟩ : AccountId) ≠ l.account := by decide
    rintro a ⟨l, hl, rfl⟩ ⟨q, hq, haccount⟩
    exact hapart l hl q hq haccount
  obtain ⟨_, hone⟩ :=
    independent_operations_commute hbook hdeletion hposting (by decide) hdisjoint
  obtain ⟨r₁, r₂, hfirst, hsecond, _⟩ := hone Specimen.settled.connect rfl
  exact ⟨r₁, r₂, hfirst, hsecond⟩

end DoubleEntry
