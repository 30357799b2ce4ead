import DoubleEntry.Http.Service
import DoubleEntry.Proofs.History
import DoubleEntry.Proofs.Matching
import DoubleEntry.Proofs.Reversal

/-!
# What a client is not told

How the store words its failures, how a rollback went and what an unreadable row says are for the log. All of the
service is discreet about them: whatever is asked, at desks that differ in such words only the response is the same.
What goes wrong inside has one sentence, whatever it was.
-/

namespace DoubleEntry

open Time

namespace Desk

/-! ## Statements -/

theorem lockAccounts_discreet (wanted : List AccountId) :
    (lockAccounts wanted).Discreet StoreError.Akin := by
  refine ask_discreet (by decide) fun {b b'} h => ?_
  have hids : (b'.liveAccounts wanted).map AccountRow.id = (b.liveAccounts wanted).map AccountRow.id :=
    (h.liveAccounts wanted).map_eq fun _ _ => rfl
  rw [hids]

theorem readAccounts_matches (wanted : List AccountId) :
    (readAccounts wanted).Matches StoreError.Akin (SameMasked AccountRow.statusText)
      (readAccounts wanted) :=
  ask_matches (by decide) (fun _ => rfl) fun h => .ok (h.liveAccounts wanted)

theorem readBalances_discreet (accounts : List AccountId) :
    (readBalances accounts).Discreet StoreError.Akin := by
  unfold readBalances
  split
  · exact .pure rfl
  · refine ask_discreet (by decide) fun h => ?_
    exact (akin_posting ⟨""⟩).readBalances h fun _ _ => trivial

theorem findNumber_discreet (number routing : String) :
    (findNumber number routing).Discreet StoreError.Akin := by
  refine send_matches (by decide) (fun _ => rfl) fun {t t'} ht => ?_
  have hbook := ht.book
  generalize t.book = book, t'.book = book' at hbook ⊢
  cases hbook with
  | none => exact .refused _
  | some h =>
      have hnumber := h.hasNumber number routing
      exact .done hnumber.symm ht

theorem insertAccount_discreet (row : AccountRow) :
    (insertAccount row).Discreet StoreError.Akin := by
  refine change_discreet (by decide) fun h => ?_
  have hkeys := h.hasAccount row.id
  have hnumbers := h.hasNumber row.number row.routing
  rw [hkeys, hnumbers]
  split
  · exact .refused _
  · split
    · exact .refused _
    · exact .done rfl (h.addAccount row)

theorem searchAccount_discreet (number routing kind : String) :
    (searchAccount number routing kind).Discreet StoreError.Akin := by
  refine ask_discreet (by decide) fun h => ?_
  rw [h.found fun _ _ => rfl]

theorem customerAccounts_discreet (customer : CustomerId) :
    (customerAccounts customer).Discreet StoreError.Akin := by
  refine ask_discreet (by decide) fun h => ?_
  rw [h.owned]

theorem insertHeader_discreet (row : HeaderRow) : (insertHeader row).Discreet StoreError.Akin := by
  have hposting := akin_posting row.id
  refine change_discreet (by decide) fun h => ?_
  rw [hposting.hasHeader h]
  split
  · exact .refused _
  · exact .done rfl (hposting.addHeader h row rfl)

theorem insertLine_discreet (row : LineRow) : (insertLine row).Discreet StoreError.Akin := by
  have hposting := akin_posting row.transaction
  refine change_discreet (by decide) fun h => ?_
  rw [hposting.hasLine h]
  split
  · exact .refused _
  · exact .done rfl (hposting.addLine h row rfl trivial)

theorem readHeaders_discreet (wanted : List TransactionId) :
    (readHeaders wanted).Discreet StoreError.Akin := by
  refine ask_discreet (by decide) fun h => ?_
  have hheaders := h.wantedHeaders wanted
  exact congrArg Except.ok hheaders

theorem readLines_matches (wanted : List TransactionId) :
    (readLines wanted).Matches StoreError.Akin (SameMasked LineRow.purposeText) (readLines wanted) :=
  ask_matches (by decide) (fun _ => rfl) fun h => .ok (h.wantedLines wanted)

theorem deleteHeader_discreet (id : TransactionId) (moment : Timestamp) :
    (deleteHeader id moment).Discreet StoreError.Akin := by
  refine change_discreet (by decide) fun h => ?_
  have hmarked := h.markHeaders id moment.asKept
  rw [h.headers] at hmarked ⊢
  exact .done rfl hmarked

theorem deleteLines_discreet (id : TransactionId) (moment : Timestamp) :
    (deleteLines id moment).Discreet StoreError.Akin := by
  refine change_discreet (by decide) fun h => ?_
  have hcount := h.linesLeft id
  have hmarked := h.markLines id moment.asKept
  exact .done hcount.symm hmarked

theorem accountHistory_discreet (account : AccountId) :
    (accountHistory account).Discreet StoreError.Akin := by
  refine ask_discreet (by decide) fun h => ?_
  rw [h.historyOf]

theorem inserted_discreet {w : Work StoreError Bool} (hw : w.Discreet StoreError.Akin) :
    (inserted w).Discreet StoreError.Akin := by
  refine hw.bind fun there => ?_
  cases there with
  | true => exact .pure rfl
  | false => exact .fail (.refl _)

/-! ## Posting and taking back -/

theorem guarded_discreet {α : Type} {w : Work StoreError α} (scope : Scope) (step : Step)
    (account : Option AccountId) (hw : w.Discreet StoreError.Akin) :
    (scope.guarded step account w).Discreet Stop.Akin :=
  hw.mapError fun _ _ h => scope.stop_akin step account h

/-- A decision is the same at both desks. -/
theorem decided_discreet {α : Type} (r : Except LedgerError α) :
    ((Work.ofExcept r).mapError Stop.error).Discreet Stop.Akin :=
  (Work.Matches.ofExcept (.refl .refl r)).mapError fun _ _ h => .error h

theorem clear_discreet (policy : FundsPolicy) (scope : Scope) (t : Transaction) :
    (clear policy scope t).Discreet Stop.Akin := by
  have hbalances : (lockBalances scope t).Discreet Stop.Akin := by
    refine (guarded_discreet scope _ _ (lockAccounts_discreet _)).bind fun locked => ?_
    split
    · exact .fail (.error (.refl _))
    · exact guarded_discreet scope _ _ (readBalances_discreet locked)
  exact hbalances.bind fun _ => decided_discreet _

theorem insertLines_discreet (scope : Scope) (createdAt : Timestamp) (n : Nat) (lines : List Line) :
    (insertLines scope createdAt n lines).Discreet Stop.Akin := by
  induction lines generalizing n with
  | nil => exact .pure rfl
  | cons l rest ih =>
    unfold insertLines
    split
    · exact (guarded_discreet scope _ _ (inserted_discreet (insertLine_discreet _))).bind
        fun _ => ih (n + 1)
    · exact .fail (.error (.refl _))

theorem writePosting_discreet (policy : FundsPolicy) (scope : Scope) (t : Transaction)
    (createdAt : Timestamp) : (writePosting policy scope t createdAt).Discreet Stop.Akin := by
  have hconfigure : (configure scope).Discreet Stop.Akin := by
    unfold configure
    split
    · exact guarded_discreet scope _ _ (limitStatements_discreet _)
    · exact .pure rfl
  have hheader : ((inserted (insertHeader ⟨t.id, t.timestamp.asKept, createdAt.asKept, none⟩)).mapError
      (headerStop scope)).Discreet Stop.Akin :=
    (inserted_discreet (insertHeader_discreet _)).mapError fun _ _ h => headerStop_akin scope h
  rw [writePosting]
  exact hconfigure.bind fun _ => (clear_discreet policy scope t).bind fun _ =>
    hheader.bind fun _ => insertLines_discreet scope createdAt 0 t.lines

/-- **Posting answers alike** whatever the store says of its failures. -/
theorem post_answers (policy : FundsPolicy) (deadline : Option Deadline) (m : Moment) (p : Proposal) :
    (post policy deadline m p).Answers LedgerError.Akin Eq (post policy deadline m p) := by
  intro d d' hd
  unfold post
  cases p.check m.now ⟨m.fresh⟩ with
  | error e => exact .error (.refl e)
  | ok t =>
      dsimp only
      rw [hd.online]
      split
      · exact .error (.refl _)
      · have hwrite := writePosting_discreet policy ⟨t.id, deadline⟩ (Kept t) m.now.wholeMicros
        rw [persist_eq]
        exact (settle_answers hwrite).map (fun _ _ _ => rfl) hd

/-- A row that is masked alike is the same line, or fails to be read in the same way. -/
theorem line_likewise {r r' : LineRow}
    (h : LineRow.purposeText.mask r' = LineRow.purposeText.mask r) :
    Likewise LedgerError.Akin Eq r.line r'.line := by
  have htransaction : r'.transaction = r.transaction :=
    TextField.apply_eq_of_mask_eq h fun _ _ => rfl
  have haccount : r'.account = r.account := TextField.apply_eq_of_mask_eq h fun _ _ => rfl
  cases hr : Purpose.ofText? r.purpose with
  | some purpose =>
      obtain rfl := TextField.eq_of_mask_eq h (congrArg Option.isSome hr)
      exact .refl .refl _
  | none =>
      cases hr' : Purpose.ofText? r'.purpose with
      | some purpose' =>
          obtain rfl := TextField.eq_of_mask_eq h.symm (congrArg Option.isSome hr')
          exact .refl .refl _
      | none =>
          unfold LineRow.line
          rw [hr, hr', htransaction, haccount]
          exact .error (.persistence _ _ _ _ _ _ _)

/-- Rows that are masked alike are the same lines, or fail to be read in the same way. -/
theorem linesOf_likewise {rows rows' : List LineRow}
    (h : SameMasked LineRow.purposeText rows rows') :
    Likewise LedgerError.Akin Eq (LineRow.linesOf rows) (LineRow.linesOf rows') := by
  refine h.likewise (fun r => r.line.map ((r.transaction, ·))) LineRow.linesOf rfl ?_ ?_
  · intro r rest
    rw [LineRow.linesOf]
    cases r.line <;> rfl
  · intro r r' hmasked
    have htransaction : r'.transaction = r.transaction :=
      TextField.apply_eq_of_mask_eq hmasked fun _ _ => rfl
    have hline := line_likewise hmasked
    rw [htransaction]
    generalize r.line = x, r'.line = x' at hline ⊢
    cases hline with
    | error he => exact .error he
    | ok hl =>
        subst hl
        exact .ok rfl

theorem readError_akin (transaction : Option TransactionId) (account : Option AccountId)
    (e e' : StoreError) :
    (readError transaction account e).Akin (readError transaction account e') :=
  .persistence _ _ _ _ _ _ _

theorem load_discreet (ids : List TransactionId) : (load ids).Discreet LedgerError.Akin := by
  have hheaders : ((readHeaders ids).mapError (readError none none)).Discreet LedgerError.Akin :=
    (readHeaders_discreet ids).mapError fun e e' _ => readError_akin none none e e'
  have hlines := (readLines_matches ids).mapError fun e e' _ => readError_akin none none e e'
  unfold load
  split
  · exact .pure rfl
  · refine hheaders.bind fun headers => hlines.bind fun rows rows' hrows => ?_
    exact Work.Matches.bind (.ofExcept (linesOf_likewise hrows)) fun _ _ h => h ▸ .pure rfl

/-- **Taking back answers alike** whatever the store says of its failures. -/
theorem delete_answers (policy : FundsPolicy) (now : Timestamp) (id : TransactionId) :
    (delete policy now id).Answers LedgerError.Akin Eq (delete policy now id) := by
  have hload : (loadForReversal id).Discreet Stop.Akin := by
    refine Work.Discreet.bind ((load_discreet [id]).mapError fun _ _ h => .error h) fun found => ?_
    split
    · exact .pure rfl
    · exact .fail (.error (.refl _))
  have hmark : (markRows ⟨id, none⟩ now).Discreet Stop.Akin := by
    have hlines := guarded_discreet ⟨id, none⟩ .softDelete none (deleteLines_discreet id now)
    refine (guarded_discreet _ _ _ (deleteHeader_discreet id now)).bind fun marked => ?_
    split
    · exact Work.Discreet.bind (.fail (.error (.refl _))) fun _ => hlines.bind fun _ => .pure rfl
    · exact hlines.bind fun _ => .pure rfl
  refine settle_answers ?_
  rw [writeReversal]
  exact hload.bind fun posted => (decided_discreet _).bind fun reversal =>
    (clear_discreet policy _ reversal).bind fun _ => hmark

/-! ## Reading -/

theorem get_discreet (id : TransactionId) : (get id).Discreet LedgerError.Akin := by
  refine Work.Discreet.bind
    (openSnapshot_discreet.mapError fun e e' _ => readError_akin (some id) none e e') fun _ => ?_
  refine (closing_discreet (fun e e' _ => readError_akin _ _ e e') (load_discreet [id])).bind
    fun found => ?_
  split
  · exact .pure rfl
  · exact .fail (.refl _)

theorem history_discreet (account : AccountId) : (history account).Discreet LedgerError.Akin := by
  refine Work.Discreet.bind
    (openSnapshot_discreet.mapError fun e e' _ => readError_akin none (some account) e e') fun _ => ?_
  refine Work.Discreet.bind ((orGiveUp_matches (accountHistory_discreet account)).mapError
    fun e e' _ => readError_akin none (some account) e e') fun ids => ?_
  exact closing_discreet (fun e e' _ => readError_akin _ _ e e') (load_discreet ids)

/-! ## Accounts -/

/-- A row that is masked alike is the same account, or fails to be read in the same way. -/
theorem account_likewise {r r' : AccountRow}
    (h : AccountRow.statusText.mask r' = AccountRow.statusText.mask r) (balance : Amount) :
    Likewise AccountError.Akin Eq (r.account balance) (r'.account balance) := by
  cases hr : AccountStatus.ofText? r.status with
  | some status =>
      obtain rfl := TextField.eq_of_mask_eq h (congrArg Option.isSome hr)
      exact .refl .refl _
  | none =>
      cases hr' : AccountStatus.ofText? r'.status with
      | some status' =>
          obtain rfl := TextField.eq_of_mask_eq h.symm (congrArg Option.isSome hr')
          exact .refl .refl _
      | none =>
          unfold AccountRow.account
          rw [hr, hr']
          exact .error (.store _ _)

/-- The balance that is told of an account; one that was not read counts as zero. -/
def balanceIn (balances : List AccountBalance) (id : AccountId) : Amount :=
  ((balances.find? fun b => b.account = id).map AccountBalance.balance).getD .zero

/-- Rows that are masked alike are the same accounts, or fail to be read in the same way. -/
theorem accountsOf_likewise (balances : List AccountBalance) {rows rows' : List AccountRow}
    (h : SameMasked AccountRow.statusText rows rows') :
    Likewise AccountError.Akin Eq (AccountRow.accountsOf balances rows)
      (AccountRow.accountsOf balances rows') := by
  refine h.likewise (fun r => r.account (balanceIn balances r.id))
    (AccountRow.accountsOf balances) rfl ?_ ?_
  · intro r rest
    rw [AccountRow.accountsOf]
    dsimp only [balanceIn]
    cases r.account _ <;> rfl
  · intro r r' hmasked
    have hid : r'.id = r.id := TextField.apply_eq_of_mask_eq hmasked fun _ _ => rfl
    rw [hid]
    exact account_likewise hmasked _

/-- On accounts the words of the store are kept as they are. -/
theorem worded_matches {α : Type} {A : α → α → Prop} {w w' : Work StoreError α}
    (hw : w.Matches StoreError.Akin A w') :
    (w.mapError AccountError.store).Matches AccountError.Akin A (w'.mapError AccountError.store) :=
  hw.mapError fun e e' _ => .store e e'

theorem createAccount_discreet (m : Moment) (r : AccountRequest) :
    (createAccount m r).Discreet AccountError.Akin := by
  have hfree : ∀ numbers last, (freeNumber r.routing numbers last).Discreet AccountError.Akin := by
    intro numbers
    induction numbers with
    | nil => exact fun last => .fail (.refl _)
    | cons number rest ih =>
      intro last
      refine Work.Discreet.bind (worded_matches (findNumber_discreet number r.routing)) fun taken => ?_
      cases taken with
      | true => exact ih number
      | false => exact .pure rfl
  have hadd : ∀ number, (addAccount m r number).Discreet AccountError.Akin := by
    intro number
    have hinserted := inserted_discreet (insertAccount_discreet (newRow m r number))
    refine Work.Discreet.bind (hinserted.mapError fun e e' he => ?_) fun _ =>
      .ofExcept (.refl AccountError.Akin.refl _)
    unfold accountInsertError
    rw [he.state?_eq]
    split
    · exact .refl _
    · exact .store e e'
  cases hmissing : r.missing? with
  | some field =>
      unfold createAccount
      rw [hmissing]
      exact .fail (.refl _)
  | none =>
      rw [createAccount_eq hmissing]
      exact (hfree _ _).bind hadd

theorem accounts_discreet (ids : List AccountId) : (accounts ids).Discreet AccountError.Akin := by
  have hread : (readAccountsWithBalances ids).Matches StoreError.Akin
      (fun x x' => SameMasked AccountRow.statusText x.1 x'.1 ∧ x.2 = x'.2)
      (readAccountsWithBalances ids) := by
    refine (readAccounts_matches ids).bind fun rows rows' hrows => ?_
    have hids : rows'.map AccountRow.id = rows.map AccountRow.id :=
      hrows.map_eq fun _ _ => rfl
    rw [hids]
    refine (readBalances_discreet _).bind fun balances => ?_
    exact (control_discreet (by decide)).bind fun _ => .pure ⟨hrows, rfl⟩
  unfold accounts
  split
  · exact .pure rfl
  · refine Work.Discreet.bind (worded_matches openSnapshot_discreet) fun _ => ?_
    refine (worded_matches (orGiveUp_matches hread)).bind ?_
    rintro ⟨rows, balances⟩ ⟨rows', _⟩ ⟨hrows, rfl⟩
    exact .ofExcept (accountsOf_likewise balances hrows)

theorem search_discreet (number routing kind : String) :
    (search number routing kind).Discreet AccountError.Akin := by
  refine Work.Discreet.bind (worded_matches (searchAccount_discreet number routing kind))
    fun found => ?_
  cases found with
  | none => exact .pure rfl
  | some id => exact (accounts_discreet [id]).bind fun _ => .pure rfl

theorem accountsOf_discreet (customer : CustomerId) :
    (accountsOf customer).Discreet AccountError.Akin :=
  Work.Discreet.bind (worded_matches (customerAccounts_discreet customer)) fun ids =>
    (accounts_discreet ids).bind fun _ => .pure rfl

end Desk

end DoubleEntry
