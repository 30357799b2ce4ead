import DoubleEntry.Proofs.Agreement
import DoubleEntry.Proofs.Loading
import DoubleEntry.Proofs.Reversal

/-!
# What posting and taking back do not see

Posting and taking back see little of the books: which accounts can be locked, the headers and lines that are not
deleted, and whether a key is taken. A relation between books that preserves these, and that is kept by what the two
write, is *unseen*: at desks that differ at most by related books both operations give one answer. So do the
questions about transactions. A posting asks for the keys of one transaction only, so keys need be
preserved only for the identifiers that are in use on both sides.
-/

namespace DoubleEntry

open Time

/-! ## What is not deleted -/

namespace Book

/-- The headers that are not deleted. -/
def liveHeaders (b : Book) : List HeaderRow := b.headers.filter HeaderRow.isLive

/-- The lines that are not deleted. -/
def linesAlive (b : Book) : List LineRow := b.lines.filter LineRow.isLive

theorem filter_liveHeaders (b : Book) (p : HeaderRow → Bool) :
    (b.headers.filter fun h => p h && h.isLive) = b.liveHeaders.filter p :=
  List.filter_filter.symm

theorem filter_linesAlive (b : Book) (p : LineRow → Bool) :
    (b.lines.filter fun l => p l && l.isLive) = b.linesAlive.filter p :=
  List.filter_filter.symm

/-- Deleted lines have no share in a balance. -/
theorem balance_eq_alive (b : Book) (a : AccountId) :
    b.balance a = (b.linesAlive.map (LineRow.share a)).sum := by
  rw [balance_eq_sum, linesAlive, sum_filter_map]
  refine congrArg List.sum (List.map_congr_left fun l _ => ?_)
  cases hlive : l.isLive with
  | true => exact (if_pos rfl).symm
  | false =>
      have hdead : l.deletedAt ≠ none := by
        intro hnone
        rw [LineRow.isLive, hnone] at hlive
        cases hlive
      rw [LineRow.share_of_dead hdead]
      exact (if_neg Bool.false_ne_true).symm

end Book

/-! ## What an operation sees -/

/-- Related books have the same accounts to lock, and the same balances on the accounts that are seen. -/
structure Unseen.Clearing (R : Book → Book → Prop) (seen : AccountId → Prop) : Prop where
  locked : ∀ {b b'}, R b b' → ∀ wanted,
    (b'.liveAccounts wanted).map AccountRow.id = (b.liveAccounts wanted).map AccountRow.id
  balance : ∀ {b b'}, R b b' → ∀ {a}, seen a → b'.balance a = b.balance a

/-- A relation between books that makes no difference to posting under an identifier on accounts that are seen. -/
structure Unseen.Posting (R : Book → Book → Prop) (id : TransactionId) (seen : AccountId → Prop) :
    Prop extends Unseen.Clearing R seen where
  hasHeader : ∀ {b b'}, R b b' → b'.hasHeader id = b.hasHeader id
  hasLine : ∀ {b b'}, R b b' → ∀ n, b'.hasLine id n = b.hasLine id n
  addHeader : ∀ {b b'}, R b b' → ∀ row : HeaderRow, row.id = id →
    R { b with headers := b.headers ++ [row] } { b' with headers := b'.headers ++ [row] }
  addLine : ∀ {b b'}, R b b' → ∀ row : LineRow, row.transaction = id → seen row.account →
    R { b with lines := b.lines ++ [row] } { b' with lines := b'.lines ++ [row] }

/-- A relation between books that makes no difference to taking a transaction back, whose accounts are seen. -/
structure Unseen.Reversal (R : Book → Book → Prop) (id : TransactionId) (seen : AccountId → Prop) :
    Prop extends Unseen.Clearing R seen where
  liveHeaders : ∀ {b b'}, R b b' →
    (b'.headersOf id).filter HeaderRow.isLive = (b.headersOf id).filter HeaderRow.isLive
  linesAlive : ∀ {b b'}, R b b' →
    (b'.linesOf id).filter LineRow.isLive = (b.linesOf id).filter LineRow.isLive
  involved : ∀ {b b'}, R b b' → ∀ l ∈ b.linesOf id, seen l.account
  markHeaders : ∀ {b b'}, R b b' → ∀ moment,
    R { b with headers := b.headers.map (HeaderRow.mark id moment) }
      { b' with headers := b'.headers.map (HeaderRow.mark id moment) }
  markLines : ∀ {b b'}, R b b' → ∀ moment,
    R { b with lines := b.lines.map (LineRow.mark id moment) }
      { b' with lines := b'.lines.map (LineRow.mark id moment) }

theorem Unseen.Clearing.readBalances {R : Book → Book → Prop} {seen : AccountId → Prop}
    (h : Clearing R seen) {b b' : Book} (hR : R b b') {accounts : List AccountId}
    (hseen : ∀ a ∈ accounts, seen a) : b'.readBalances accounts = b.readBalances accounts := by
  induction accounts with
  | nil => rfl
  | cons a rest ih =>
    have hread : b'.readBalance a = b.readBalance a := by
      rw [Book.readBalance, Book.readBalance, h.balance hR (hseen a List.mem_cons_self)]
    rw [Book.readBalances, Book.readBalances, hread, ih fun x hx => hseen x (List.mem_cons_of_mem _ hx)]

namespace Book

variable (b : Book) (id : TransactionId)

theorem liveHeaders_of : (b.headers.filter fun h => decide (h.id = id) && h.isLive) =
    (b.headersOf id).filter HeaderRow.isLive := by
  rw [headersOf, List.filter_filter]
  exact List.filter_congr fun h _ => Bool.and_comm _ _

theorem linesAlive_of : (b.lines.filter fun l => decide (l.transaction = id) && l.isLive) =
    (b.linesOf id).filter LineRow.isLive := by
  rw [linesOf, List.filter_filter]
  exact List.filter_congr fun l _ => Bool.and_comm _ _

theorem wantedHeaders_one :
    b.wantedHeaders [id] = (b.headersOf id).filter HeaderRow.isLive := by
  rw [wantedHeaders, ← liveHeaders_of]
  refine List.filter_congr fun h _ => ?_
  rw [List.contains_cons, List.contains_nil, Bool.or_false, beq_eq_decide]

theorem wantedLines_one :
    b.wantedLines [id] = Order.sort lineBefore ((b.linesOf id).filter LineRow.isLive) := by
  rw [wantedLines, ← linesAlive_of]
  refine congrArg (Order.sort lineBefore) (List.filter_congr fun l _ => ?_)
  rw [List.contains_cons, List.contains_nil, Bool.or_false, beq_eq_decide]

end Book

namespace Desk

variable {R : Book → Book → Prop} {seen : AccountId → Prop} {id : TransactionId}

theorem inserted_agrees {w : Work StoreError Bool} (hw : w.Agrees R) : (inserted w).Agrees R := by
  refine hw.bind fun there => ?_
  cases there with
  | true => exact .pure ()
  | false => exact .fail _

/-! ### Clearing -/

/-- Only accounts that were wanted are locked. -/
theorem lockAccounts_wanted {wanted locked : List AccountId} {d d' : Desk}
    (h : lockAccounts wanted d = (.ok locked, d')) : ∀ a ∈ locked, a ∈ wanted := by
  intro a ha
  obtain ⟨_, ⟨b, _, hlocked⟩ | ⟨rfl, _⟩⟩ := ask_ok h
  · rw [← Except.ok.inj hlocked] at ha
    obtain ⟨r, hr, rfl⟩ := List.mem_map.mp ha
    exact (Book.mem_liveAccounts.mp hr).2.1
  · exact absurd ha (by simp)

theorem clear_agrees (h : Unseen.Clearing R seen) (policy : FundsPolicy) (scope : Scope)
    {t : Transaction} (hseen : ∀ l ∈ t.lines, seen l.account) : (clear policy scope t).Agrees R := by
  have hinvolved : ∀ a ∈ t.accounts, seen a := by
    intro a ha
    obtain ⟨l, hl, rfl⟩ := Line.mem_accounts.mp ha
    exact hseen l hl
  have hlock : (scope.guarded .lockAccounts none (lockAccounts t.accounts)).Agrees R := by
    refine Work.Agrees.mapError (ask_agrees fun hR => ?_)
    exact congrArg Except.ok (h.locked hR t.accounts)
  have hread : ∀ locked : List AccountId, (∀ a ∈ locked, a ∈ t.accounts) →
      (readBalances locked).Agrees R := by
    intro locked hlocked
    unfold readBalances
    split
    · exact .pure _
    · exact ask_agrees fun hR => h.readBalances hR fun a ha => hinvolved a (hlocked a ha)
  have hbalances : (lockBalances scope t).Agrees R := by
    refine hlock.bind_of (fun _ _ _ _ _ hok => lockAccounts_wanted (Work.mapError_ok hok)) ?_
    intro locked hlocked
    split
    · exact .fail _
    · exact (hread locked hlocked).mapError
  exact hbalances.bind fun _ => (Work.Agrees.ofExcept _).mapError

/-! ### Posting -/

theorem configure_agrees (scope : Scope) : (configure scope).Agrees R := by
  unfold configure
  split
  · exact (limitStatements_agrees _).mapError
  · exact .pure ()

theorem insertHeader_agrees (h : Unseen.Posting R id seen) {row : HeaderRow} (hid : row.id = id) :
    (insertHeader row).Agrees R := by
  refine change_agrees fun hR => ?_
  rw [hid, h.hasHeader hR]
  split
  · exact .refused _
  · exact .done rfl (h.addHeader hR row hid)

theorem insertLine_agrees (h : Unseen.Posting R id seen) {row : LineRow} (hid : row.transaction = id)
    (hseen : seen row.account) : (insertLine row).Agrees R := by
  refine change_agrees fun hR => ?_
  rw [hid, h.hasLine hR]
  split
  · exact .refused _
  · exact .done rfl (h.addLine hR row hid hseen)

theorem insertLines_agrees (h : Unseen.Posting R id seen) {scope : Scope}
    (hid : scope.transaction = id) (createdAt : Timestamp) (n : Nat) {lines : List Line}
    (hseen : ∀ l ∈ lines, seen l.account) : (insertLines scope createdAt n lines).Agrees R := by
  induction lines generalizing n with
  | nil => exact .pure ()
  | cons l rest ih =>
    have hfirst : (insertLine ⟨scope.transaction, n, l.account, l.purpose.canonical, l.amount,
        createdAt.asKept, none⟩).Agrees R :=
      insertLine_agrees h hid (hseen l List.mem_cons_self)
    have hrest := ih (n + 1) fun k hk => hseen k (List.mem_cons_of_mem _ hk)
    unfold insertLines
    split
    · exact (inserted_agrees hfirst).mapError.bind fun _ => hrest
    · exact .fail _

theorem writePosting_agrees (h : Unseen.Posting R id seen) (policy : FundsPolicy) {scope : Scope}
    {t : Transaction} (hscope : scope.transaction = id) (hid : t.id = id)
    (hseen : ∀ l ∈ t.lines, seen l.account) (createdAt : Timestamp) :
    (writePosting policy scope t createdAt).Agrees R := by
  have hheader : (insertHeader ⟨t.id, t.timestamp.asKept, createdAt.asKept, none⟩).Agrees R :=
    insertHeader_agrees h hid
  have henter : (enterRows scope t createdAt).Agrees R :=
    (inserted_agrees hheader).mapError.bind fun _ => insertLines_agrees h hscope createdAt 0 hseen
  rw [writePosting]
  exact (configure_agrees scope).bind fun _ =>
    (clear_agrees h.toClearing policy scope hseen).bind fun _ => henter

/-- **A posting agrees** that sees nothing of what sets the books apart. -/
theorem post_agrees_of {policy : FundsPolicy} {deadline : Option Deadline} {m : Moment}
    {p : Proposal} (h : Unseen.Posting R (p.identity ⟨m.fresh⟩) seen)
    (hseen : ∀ l ∈ p.lines, seen ⟨l.account⟩) : (post policy deadline m p).Agrees R := by
  intro d d' hd
  unfold post
  cases hcheck : p.check m.now ⟨m.fresh⟩ with
  | error e => exact ⟨_, _, _, rfl, rfl, hd⟩
  | ok t =>
      obtain ⟨hid, _, _, _, hlines⟩ := Proposal.check_ok hcheck
      have haccounts := ProposedLine.accounts_of_check hlines
      have hwritten : ∀ l ∈ (Kept t).lines, seen l.account := by
        intro l hl
        have hmem : l.account ∈ t.lines.map Line.account := List.mem_map_of_mem hl
        rw [haccounts] at hmem
        obtain ⟨q, hq, hql⟩ := List.mem_map.mp hmem
        rw [← hql]
        exact hseen q hq
      dsimp only
      rw [hd.online]
      split
      · exact ⟨_, _, _, rfl, rfl, hd⟩
      · rw [persist_eq]
        have hwrite : (writePosting policy ⟨t.id, deadline⟩ (Kept t) m.now.wholeMicros).Agrees R := by
          refine writePosting_agrees h policy ?_ ?_ hwritten _
          · exact hid
          · exact hid
        exact (settle_agrees hwrite).bind (fun _ => .pure _) hd

/-! ### Taking back -/

theorem load_agrees_of {ids : List TransactionId}
    (hheaders : ∀ {b b'}, R b b' → b'.wantedHeaders ids = b.wantedHeaders ids)
    (hlines : ∀ {b b'}, R b b' → b'.wantedLines ids = b.wantedLines ids) :
    (load ids).Agrees R := by
  have hreadHeaders : (readHeaders ids).Agrees R :=
    ask_agrees fun hR => congrArg Except.ok (hheaders hR)
  have hreadLines : (readLines ids).Agrees R := ask_agrees fun hR => congrArg Except.ok (hlines hR)
  unfold load
  split
  · exact .pure _
  · refine hreadHeaders.mapError.bind fun headers => hreadLines.mapError.bind fun rows => ?_
    exact (Work.Agrees.ofExcept _).bind fun lines => .pure _

theorem markRows_agrees (h : Unseen.Reversal R id seen) (now : Timestamp) :
    (markRows ⟨id, none⟩ now).Agrees R := by
  have hheader : (deleteHeader id now).Agrees R := by
    refine change_agrees fun {b b'} hR => ?_
    -- as many headers are marked as are not deleted
    rw [Book.liveHeaders_of, Book.liveHeaders_of, h.liveHeaders hR]
    exact .done rfl (h.markHeaders hR now.asKept)
  have hlines : (deleteLines id now).Agrees R := by
    refine change_agrees fun {b b'} hR => ?_
    rw [Book.linesAlive_of, Book.linesAlive_of, h.linesAlive hR]
    exact .done rfl (h.markLines hR now.asKept)
  refine hheader.mapError.bind fun marked => ?_
  split
  · exact .bind (.fail _) fun _ => .bind hlines.mapError fun _ => .pure ()
  · exact .bind hlines.mapError fun _ => .pure ()

/-- **Taking back agrees** that sees nothing of what sets the books apart. -/
theorem delete_agrees_of {policy : FundsPolicy} {now : Timestamp} (h : Unseen.Reversal R id seen) :
    (delete policy now id).Agrees R := by
  have hload : (loadForReversal id).Agrees R := by
    refine (load_agrees_of (fun hR => ?_) fun hR => ?_).mapError.bind fun found => ?_
    · rw [Book.wantedHeaders_one, Book.wantedHeaders_one, h.liveHeaders hR]
    · rw [Book.wantedLines_one, Book.wantedLines_one, h.linesAlive hR]
    · split
      · exact .pure _
      · exact .fail _
  refine settle_agrees ?_
  rw [writeReversal]
  refine hload.bind_of (P := fun posted => ∀ l ∈ posted.transaction.lines, seen l.account) ?_ ?_
  · intro d d' e posted hd hok l hl
    obtain ⟨b, hb, r, hr, hrl⟩ := loadForReversal_accounts hok hl
    obtain ⟨b', _, hR⟩ := hd.store.exists_book hb
    rw [← hrl]
    exact h.involved hR r hr
  · intro posted hposted
    refine (Work.Agrees.ofExcept (reversalOf posted.transaction)).mapError.bind_of
      (P := fun reversal => ∀ l ∈ reversal.lines, seen l.account) ?_ ?_
    · intro d d' e reversal _ hok l hl
      obtain ⟨hreversal, _⟩ := Work.ofExcept_ok (Work.mapError_ok hok)
      have hmem : l.account ∈ reversal.lines.map Line.account := List.mem_map_of_mem hl
      rw [(reversalOf_ok hreversal).1] at hmem
      obtain ⟨k, hk, hkl⟩ := List.mem_map.mp hmem
      rw [← hkl]
      exact hposted k hk
    · intro reversal hseen
      exact (clear_agrees h.toClearing policy _ hseen).bind fun _ => markRows_agrees h now

end Desk

/-! ## Unseen relations -/

/-- A relation between books that makes no difference to posting and taking back, as far as the identifiers
posted are usable. -/
structure Unseen (R : Book → Book → Prop) (usable : TransactionId → Prop) : Prop where
  /-- The same accounts can be locked. -/
  locked : ∀ {b b'}, R b b' → ∀ wanted,
    (b'.liveAccounts wanted).map AccountRow.id = (b.liveAccounts wanted).map AccountRow.id
  /-- The same headers are not deleted. -/
  liveHeaders : ∀ {b b'}, R b b' → b'.liveHeaders = b.liveHeaders
  /-- The same lines are not deleted. -/
  linesAlive : ∀ {b b'}, R b b' → b'.linesAlive = b.linesAlive
  /-- The same usable identifiers are taken. -/
  hasHeader : ∀ {b b'}, R b b' → ∀ {id}, usable id → b'.hasHeader id = b.hasHeader id
  /-- The same numbers of lines are taken under usable identifiers. -/
  hasLine : ∀ {b b'}, R b b' → ∀ {id}, usable id → ∀ n, b'.hasLine id n = b.hasLine id n
  /-- A header may be added. -/
  addHeader : ∀ {b b'}, R b b' → ∀ row : HeaderRow,
    R { b with headers := b.headers ++ [row] } { b' with headers := b'.headers ++ [row] }
  /-- A line may be added. -/
  addLine : ∀ {b b'}, R b b' → ∀ row : LineRow,
    R { b with lines := b.lines ++ [row] } { b' with lines := b'.lines ++ [row] }
  /-- Headers may be marked. -/
  markHeaders : ∀ {b b'}, R b b' → ∀ id moment,
    R { b with headers := b.headers.map (HeaderRow.mark id moment) }
      { b' with headers := b'.headers.map (HeaderRow.mark id moment) }
  /-- Lines may be marked. -/
  markLines : ∀ {b b'}, R b b' → ∀ id moment,
    R { b with lines := b.lines.map (LineRow.mark id moment) }
      { b' with lines := b'.lines.map (LineRow.mark id moment) }

namespace Unseen

variable {R : Book → Book → Prop} {usable : TransactionId → Prop} {b b' : Book}

/-! ## What is read from related books -/

theorem balance (h : Unseen R usable) (hR : R b b') (a : AccountId) : b'.balance a = b.balance a := by
  rw [Book.balance_eq_alive, Book.balance_eq_alive, h.linesAlive hR]

theorem clearing (h : Unseen R usable) : Clearing R fun _ => True :=
  ⟨fun hR => h.locked hR, fun hR _ _ => h.balance hR _⟩

theorem readBalances (h : Unseen R usable) (hR : R b b') (accounts : List AccountId) :
    b'.readBalances accounts = b.readBalances accounts :=
  h.clearing.readBalances hR fun _ _ => trivial

/-- A usable identifier may be posted under. -/
theorem posting (h : Unseen R usable) {id : TransactionId} (hid : usable id) :
    Posting R id fun _ => True where
  toClearing := h.clearing
  hasHeader hR := h.hasHeader hR hid
  hasLine hR n := h.hasLine hR hid n
  addHeader hR row _ := h.addHeader hR row
  addLine hR row _ _ := h.addLine hR row

/-- Any transaction may be taken back. -/
theorem reversal (h : Unseen R usable) (id : TransactionId) : Reversal R id fun _ => True where
  toClearing := h.clearing
  liveHeaders {b b'} hR := by
    rw [← b'.liveHeaders_of id, ← b.liveHeaders_of id, b'.filter_liveHeaders, b.filter_liveHeaders,
      h.liveHeaders hR]
  linesAlive {b b'} hR := by
    rw [← b'.linesAlive_of id, ← b.linesAlive_of id, b'.filter_linesAlive, b.filter_linesAlive,
      h.linesAlive hR]
  involved _ _ _ := trivial
  markHeaders hR moment := h.markHeaders hR id moment
  markLines hR moment := h.markLines hR id moment

theorem wantedHeaders (h : Unseen R usable) (hR : R b b') (ids : List TransactionId) :
    b'.wantedHeaders ids = b.wantedHeaders ids := by
  rw [Book.wantedHeaders, Book.wantedHeaders, Book.filter_liveHeaders, Book.filter_liveHeaders,
    h.liveHeaders hR]

theorem wantedLines (h : Unseen R usable) (hR : R b b') (ids : List TransactionId) :
    b'.wantedLines ids = b.wantedLines ids := by
  rw [Book.wantedLines, Book.wantedLines, Book.filter_linesAlive, Book.filter_linesAlive,
    h.linesAlive hR]

theorem latestOn (h : Unseen R usable) (hR : R b b') (account : AccountId) (id : TransactionId) :
    b'.latestOn account id = b.latestOn account id := by
  rw [Book.latestOn, Book.latestOn, Book.filter_linesAlive, Book.filter_linesAlive, h.linesAlive hR]

theorem historyOf (h : Unseen R usable) (hR : R b b') (account : AccountId) :
    b'.historyOf account = b.historyOf account := by
  have hlatest : (fun s => ((⟨s⟩ : TransactionId), b'.latestOn account ⟨s⟩)) =
      fun s => (⟨s⟩, b.latestOn account ⟨s⟩) :=
    funext fun s => by rw [h.latestOn hR]
  unfold Book.historyOf
  rw [Book.filter_linesAlive, Book.filter_linesAlive, h.linesAlive hR, hlatest]

end Unseen

/-! ## Operations and questions -/

namespace Desk

variable {R : Book → Book → Prop} {usable : TransactionId → Prop}

/-- **A posting under a usable identifier agrees** for a relation that is unseen. -/
theorem post_agrees (h : Unseen R usable) (policy : FundsPolicy) (deadline : Option Deadline)
    {m : Moment} {p : Proposal} (hid : usable (p.identity ⟨m.fresh⟩)) :
    (post policy deadline m p).Agrees R :=
  post_agrees_of (h.posting hid) fun _ _ => trivial

/-- **Taking back agrees** for a relation that is unseen, whatever the identifier. -/
theorem delete_agrees (h : Unseen R usable) (policy : FundsPolicy) (now : Timestamp)
    (id : TransactionId) : (delete policy now id).Agrees R :=
  delete_agrees_of (h.reversal id)

theorem readBalances_agrees (h : Unseen R usable) (accounts : List AccountId) :
    (readBalances accounts).Agrees R := by
  unfold readBalances
  split
  · exact .pure _
  · exact ask_agrees fun hR => h.readBalances hR accounts

theorem load_agrees (h : Unseen R usable) (ids : List TransactionId) : (load ids).Agrees R :=
  load_agrees_of (fun hR => h.wantedHeaders hR ids) fun hR => h.wantedLines hR ids

theorem get_agrees (h : Unseen R usable) (id : TransactionId) : (get id).Agrees R := by
  refine openSnapshot_agrees.mapError.bind fun _ => ?_
  refine (closing_agrees (load_agrees h [id])).bind fun found => ?_
  split
  · exact .pure _
  · exact .fail _

theorem history_agrees (h : Unseen R usable) (account : AccountId) : (history account).Agrees R := by
  have hids : (accountHistory account).Agrees R :=
    ask_agrees fun hR => congrArg Except.ok (h.historyOf hR account)
  refine openSnapshot_agrees.mapError.bind fun _ => ?_
  exact (orGiveUp_agrees hids).mapError.bind fun ids => closing_agrees (load_agrees h ids)

theorem balance_agrees (h : Unseen R usable) (account : AccountId) : (balance account).Agrees R := by
  refine Work.Agrees.mapError (ask_agrees fun {b b'} hR => ?_)
  rw [Book.readBalance, Book.readBalance, h.balance hR]

end Desk

end DoubleEntry
