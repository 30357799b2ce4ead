import DoubleEntry.Proofs.Lifecycle
import DoubleEntry.Proofs.Replies
import DoubleEntry.Proofs.Unseen

/-!
# Taking back undoes posting

A transaction that was posted and taken back leaves a deleted header and deleted lines behind, so the books are not
those from before. But no answer tells the two apart, except to somebody who posts under the identifier again: it is
used up. This is so for whatever can be asked and done next, for every run of such calls, and whatever
goes wrong on the way, as long as the same goes wrong in both.
-/

namespace DoubleEntry

open Time

/-! ## Books that differ by what is deleted -/

/-- The books are the same but for deleted rows, which take up keys under one identifier at most. -/
structure Book.Resembles (used : TransactionId) (b b' : Book) : Prop where
  accounts : b'.accounts = b.accounts
  /-- The same headers are not deleted. -/
  liveHeaders : b'.liveHeaders = b.liveHeaders
  /-- The same lines are not deleted. -/
  linesAlive : b'.linesAlive = b.linesAlive
  /-- The same other identifiers are taken. -/
  hasHeader : ∀ {id}, id ≠ used → b'.hasHeader id = b.hasHeader id
  /-- The same numbers of lines are taken under other identifiers. -/
  hasLine : ∀ {id}, id ≠ used → ∀ n, b'.hasLine id n = b.hasLine id n

namespace Book

/-- Where a mark takes rows out of those that are live and leaves all others as they are, the others are left. -/
theorem filter_mark {α : Type} {mark : α → α} {live other : α → Bool}
    (hlive : ∀ x, live (mark x) = (other x && live x)) (hsame : ∀ x, other x = true → mark x = x)
    (rows : List α) : (rows.map mark).filter live = (rows.filter live).filter other := by
  calc (rows.map mark).filter live
      = (rows.filter fun x => other x && live x).map mark := by
        rw [List.filter_map]
        exact congrArg (List.map mark) (List.filter_congr fun x _ => hlive x)
    _ = ((rows.filter live).filter other).map mark := by rw [List.filter_filter]
    _ = (rows.filter live).filter other := by
        refine (List.map_congr_left fun x hx => ?_).trans (List.map_id _)
        exact hsame x (List.mem_filter.mp hx).2

theorem isLive_mark_header (id : TransactionId) (moment : Timestamp) (h : HeaderRow) :
    (h.mark id moment).isLive = (decide (h.id ≠ id) && h.isLive) := by
  unfold HeaderRow.mark
  split
  · rename_i hmarked
    rw [decide_eq_false (not_not.mpr hmarked.1)]
    rfl
  · rename_i hnot
    cases hlive : h.isLive with
    | false => rw [Bool.and_false]
    | true =>
        have hother : h.id ≠ id := fun hid => hnot ⟨hid, hlive⟩
        rw [decide_eq_true hother, Bool.and_true]

theorem isLive_mark_line (id : TransactionId) (moment : Timestamp) (l : LineRow) :
    (l.mark id moment).isLive = (decide (l.transaction ≠ id) && l.isLive) := by
  unfold LineRow.mark
  split
  · rename_i hmarked
    rw [decide_eq_false (not_not.mpr hmarked.1)]
    rfl
  · rename_i hnot
    cases hlive : l.isLive with
    | false => rw [Bool.and_false]
    | true =>
        have hother : l.transaction ≠ id := fun hid => hnot ⟨hid, hlive⟩
        rw [decide_eq_true hother, Bool.and_true]

/-- What is marked is no longer among the headers that are not deleted. -/
theorem liveHeaders_mark (b : Book) (id : TransactionId) (moment : Timestamp) :
    { b with headers := b.headers.map (HeaderRow.mark id moment) }.liveHeaders =
      b.liveHeaders.filter fun h => h.id ≠ id :=
  filter_mark (isLive_mark_header id moment)
    (fun _ hother => if_neg fun hm => of_decide_eq_true hother hm.1) b.headers

/-- What is marked is no longer among the lines that are not deleted. -/
theorem linesAlive_mark (b : Book) (id : TransactionId) (moment : Timestamp) :
    { b with lines := b.lines.map (LineRow.mark id moment) }.linesAlive =
      b.linesAlive.filter fun l => l.transaction ≠ id :=
  filter_mark (isLive_mark_line id moment)
    (fun _ hother => LineRow.mark_of_other id moment (of_decide_eq_true hother)) b.lines

/-- A mark frees no identifier. -/
theorem hasHeader_mark (b : Book) (id : TransactionId) (moment : Timestamp) (i : TransactionId) :
    { b with headers := b.headers.map (HeaderRow.mark id moment) }.hasHeader i = b.hasHeader i := by
  unfold hasHeader
  rw [List.any_map]
  refine congrArg (fun p => b.headers.any p) (funext fun h => ?_)
  rw [Function.comp_apply, HeaderRow.mark_id]

/-- Nor does it free the number of a line. -/
theorem hasLine_mark (b : Book) (id : TransactionId) (moment : Timestamp) (i : TransactionId)
    (n : Int) :
    { b with lines := b.lines.map (LineRow.mark id moment) }.hasLine i n = b.hasLine i n := by
  unfold hasLine
  rw [List.any_map]
  refine congrArg (fun p => b.lines.any p) (funext fun l => ?_)
  rw [Function.comp_apply, LineRow.mark_transaction, LineRow.mark_number]

variable {b : Book} {t : Transaction}

/-- Those headers that are not deleted and not of the entered transaction are the ones from before. -/
theorem liveHeaders_enter_other (hnew : b.hasHeader t.id = false) (createdAt : Timestamp) :
    ((b.enter t createdAt).liveHeaders.filter fun h => h.id ≠ t.id) = b.liveHeaders := by
  have hold : (b.liveHeaders.filter fun h => h.id ≠ t.id) = b.liveHeaders :=
    List.filter_eq_self.mpr fun h hh =>
      decide_eq_true (header_ne_of_new hnew (List.mem_filter.mp hh).1)
  unfold liveHeaders at hold ⊢
  unfold enter
  rw [List.filter_append, List.filter_append, hold]
  simp

/-- So are those lines. -/
theorem linesAlive_enter_other (hnew : b.hasHeader t.id = false)
    (howned : ∀ l ∈ b.lines, b.hasHeader l.transaction = true) (createdAt : Timestamp) :
    ((b.enter t createdAt).linesAlive.filter fun l => l.transaction ≠ t.id) = b.linesAlive := by
  have hold : (b.linesAlive.filter fun l => l.transaction ≠ t.id) = b.linesAlive :=
    List.filter_eq_self.mpr fun l hl =>
      decide_eq_true (line_ne_of_new hnew howned (List.mem_filter.mp hl).1)
  have hnone : ((LineRow.ofLines t.id createdAt.asKept 0 t.lines).filter LineRow.isLive).filter
      (fun l => l.transaction ≠ t.id) = [] := by
    refine List.filter_eq_nil_iff.mpr fun l hl => ?_
    rw [(LineRow.mem_ofLines (List.mem_filter.mp hl).1).1]
    simp
  unfold linesAlive at hold ⊢
  unfold enter
  rw [List.filter_append, List.filter_append, hold, hnone, List.append_nil]

theorem hasHeader_enter_other {id : TransactionId} (hid : id ≠ t.id) (createdAt : Timestamp) :
    (b.enter t createdAt).hasHeader id = b.hasHeader id := by
  unfold hasHeader enter
  rw [List.any_append]
  simp [Ne.symm hid]

theorem hasLine_enter_other {id : TransactionId} (hid : id ≠ t.id) (createdAt : Timestamp)
    (n : Int) : (b.enter t createdAt).hasLine id n = b.hasLine id n := by
  have hnone : (LineRow.ofLines t.id createdAt.asKept 0 t.lines).any
      (fun l => l.transaction = id ∧ l.number = n) = false := by
    refine List.any_eq_false.mpr fun l hl => ?_
    rw [(LineRow.mem_ofLines hl).1, decide_eq_true_eq]
    exact fun h => hid h.1.symm
  unfold hasLine enter
  rw [List.any_append, hnone, Bool.or_false]

/-- **A transaction that was entered and struck** leaves books that resemble those from before. -/
theorem resembles_undone (hnew : b.hasHeader t.id = false)
    (howned : ∀ l ∈ b.lines, b.hasHeader l.transaction = true) (createdAt moment : Timestamp) :
    b.Resembles t.id ((b.enter t createdAt).strike t.id moment) where
  accounts := rfl
  liveHeaders :=
    ((b.enter t createdAt).liveHeaders_mark t.id moment).trans
      (liveHeaders_enter_other hnew createdAt)
  linesAlive :=
    ((b.enter t createdAt).linesAlive_mark t.id moment).trans
      (linesAlive_enter_other hnew howned createdAt)
  hasHeader hid :=
    ((b.enter t createdAt).hasHeader_mark t.id moment _).trans (hasHeader_enter_other hid createdAt)
  hasLine hid n :=
    ((b.enter t createdAt).hasLine_mark t.id moment _ n).trans (hasLine_enter_other hid createdAt n)

end Book

/-- **Deleted rows are not seen**, except under the identifier that is used up. -/
theorem resembles_unseen (used : TransactionId) :
    Unseen (Book.Resembles used) fun id => id ≠ used where
  locked h wanted := by rw [Book.liveAccounts, Book.liveAccounts, h.accounts]
  liveHeaders h := h.liveHeaders
  linesAlive h := h.linesAlive
  hasHeader h _ hid := h.hasHeader hid
  hasLine h _ hid n := h.hasLine hid n
  addHeader {b b'} h row := by
    refine ⟨h.accounts, ?_, h.linesAlive, fun {id} hid => ?_, h.hasLine⟩
    · have hlive := h.liveHeaders
      unfold Book.liveHeaders at hlive ⊢
      rw [List.filter_append, List.filter_append, hlive]
    · have htaken := h.hasHeader hid
      unfold Book.hasHeader at htaken ⊢
      rw [List.any_append, List.any_append, htaken]
  addLine {b b'} h row := by
    refine ⟨h.accounts, h.liveHeaders, ?_, h.hasHeader, fun {id} hid n => ?_⟩
    · have halive := h.linesAlive
      unfold Book.linesAlive at halive ⊢
      rw [List.filter_append, List.filter_append, halive]
    · have htaken := h.hasLine hid n
      unfold Book.hasLine at htaken ⊢
      rw [List.any_append, List.any_append, htaken]
  markHeaders {b b'} h id moment := by
    refine ⟨h.accounts, ?_, h.linesAlive, fun {i} hi => ?_, h.hasLine⟩
    · rw [b'.liveHeaders_mark id moment, b.liveHeaders_mark id moment, h.liveHeaders]
    · rw [b'.hasHeader_mark id moment, b.hasHeader_mark id moment, h.hasHeader hi]
  markLines {b b'} h id moment := by
    refine ⟨h.accounts, h.liveHeaders, ?_, h.hasHeader, fun {i} hi n => ?_⟩
    · rw [b'.linesAlive_mark id moment, b.linesAlive_mark id moment, h.linesAlive]
    · rw [b'.hasLine_mark id moment, b.hasLine_mark id moment, h.hasLine hi n]

/-! ## Accounts -/

namespace Desk

variable {used : TransactionId}

theorem readAccounts_agrees (wanted : List AccountId) :
    (readAccounts wanted).Agrees (Book.Resembles used) :=
  ask_agrees fun h => by rw [Book.liveAccounts, Book.liveAccounts, h.accounts]

theorem accounts_agrees (ids : List AccountId) : (accounts ids).Agrees (Book.Resembles used) := by
  have hread : (readAccountsWithBalances ids).Agrees (Book.Resembles used) := by
    refine (readAccounts_agrees ids).bind fun rows => ?_
    refine (readBalances_agrees (resembles_unseen used) _).bind fun balances => ?_
    exact (control_agrees _).bind fun _ => .pure _
  unfold accounts
  split
  · exact .pure _
  · refine openSnapshot_agrees.mapError.bind fun _ => ?_
    exact (orGiveUp_agrees hread).mapError.bind fun _ => .ofExcept _

theorem search_agrees (number routing kind : String) :
    (search number routing kind).Agrees (Book.Resembles used) := by
  have hsearch : (searchAccount number routing kind).Agrees (Book.Resembles used) :=
    ask_agrees fun h => by rw [h.accounts]
  refine hsearch.mapError.bind fun found => ?_
  cases found with
  | none => exact .pure _
  | some id => exact (accounts_agrees [id]).bind fun _ => .pure _

theorem accountsOf_agrees (customer : CustomerId) :
    (accountsOf customer).Agrees (Book.Resembles used) := by
  have hids : (customerAccounts customer).Agrees (Book.Resembles used) :=
    ask_agrees fun h => by rw [h.accounts]
  exact hids.mapError.bind fun ids => (accounts_agrees ids).bind fun _ => .pure _

theorem findNumber_agrees (number routing : String) :
    (findNumber number routing).Agrees (Book.Resembles used) := by
  refine send_agrees fun {s s'} hs => ?_
  have hbook := hs.book
  generalize s.book = book, s'.book = book' at hbook ⊢
  cases hbook with
  | none => exact .refused _
  | some h =>
      dsimp only
      rw [Book.hasNumber, Book.hasNumber, h.accounts]
      exact .done rfl hs

theorem insertAccount_agrees (row : AccountRow) :
    (insertAccount row).Agrees (Book.Resembles used) := by
  refine change_agrees fun {b b'} h => ?_
  have haccount : b'.hasAccount row.id = b.hasAccount row.id := by
    rw [Book.hasAccount, Book.hasAccount, h.accounts]
  have hnumber : b'.hasNumber row.number row.routing = b.hasNumber row.number row.routing := by
    rw [Book.hasNumber, Book.hasNumber, h.accounts]
  rw [haccount, hnumber]
  split
  · exact .refused _
  · split
    · exact .refused _
    · refine .done rfl ⟨?_, h.liveHeaders, h.linesAlive, h.hasHeader, h.hasLine⟩
      rw [h.accounts]

theorem createAccount_agrees (m : Moment) (r : AccountRequest) :
    (createAccount m r).Agrees (Book.Resembles used) := by
  have hfree : ∀ numbers last,
      (freeNumber r.routing numbers last).Agrees (Book.Resembles used) := by
    intro numbers
    induction numbers with
    | nil => exact fun last => .fail _
    | cons number rest ih =>
      intro last
      refine (findNumber_agrees number r.routing).mapError.bind fun taken => ?_
      cases taken with
      | true => exact ih number
      | false => exact .pure number
  cases hmissing : r.missing? with
  | some field =>
      unfold createAccount
      rw [hmissing]
      exact .fail _
  | none =>
      rw [createAccount_eq hmissing]
      refine (hfree _ _).bind fun number => ?_
      exact (inserted_agrees (insertAccount_agrees _)).mapError.bind fun _ => .ofExcept _

end Desk

/-! ## Calls -/

/-- The call is to post a transaction of this identifier. -/
def Call.Posts (id : TransactionId) : Call → Prop
  | operation (.post _ _ m p) => p.identity ⟨m.fresh⟩ = id
  | _ => False

/-- **No call tells the books apart but one that posts under the identifier used up.** -/
theorem Call.agrees_of_other {used : TransactionId} {c : Call} (hc : ¬ c.Posts used) :
    c.Agrees (Book.Resembles used) := by
  have hunseen := resembles_unseen used
  cases c with
  | operation o =>
      cases o with
      | create m r =>
          exact agrees_of_work (Desk.createAccount_agrees m r) (fun _ => rfl) fun _ => rfl
      | post policy deadline m p =>
          exact agrees_of_work (Desk.post_agrees hunseen policy deadline hc) (fun _ => rfl) fun _ => rfl
      | delete policy now id =>
          exact agrees_of_work (Desk.delete_agrees hunseen policy now id) (fun _ => rfl) fun _ => rfl
  | question q =>
      cases q with
      | accounts ids => exact agrees_of_work (Desk.accounts_agrees ids) (fun _ => rfl) fun _ => rfl
      | search number routing kind =>
          exact agrees_of_work (Desk.search_agrees number routing kind) (fun _ => rfl) fun _ => rfl
      | accountsOf customer =>
          exact agrees_of_work (Desk.accountsOf_agrees customer) (fun _ => rfl) fun _ => rfl
      | get id => exact agrees_of_work (Desk.get_agrees hunseen id) (fun _ => rfl) fun _ => rfl
      | history account =>
          exact agrees_of_work (Desk.history_agrees hunseen account) (fun _ => rfl) fun _ => rfl
      | balance account =>
          exact agrees_of_work (Desk.balance_agrees hunseen account) (fun _ => rfl) fun _ => rfl

/-! ## Undone -/

/-- What a posting and the taking back of its transaction have made of the store. -/
theorem store_undone {policy policy' : FundsPolicy} {deadline : Option Deadline} {m : Moment}
    {p : Proposal} {posted : Posted} {now : Timestamp} {d d₁ e d₂ : Desk}
    (hpost : Desk.post policy deadline m p d = (.ok posted, d₁)) (he : e.store = d₁.store)
    (htruth : e.plan.Truthful)
    (hdelete : Desk.delete policy' now posted.transaction.id e = (.ok (), d₂)) :
    ∃ b, d.store.book = some b ∧ b.hasHeader posted.transaction.id = false ∧
      d₂.store = { d.store with
        book := some ((b.enter posted.transaction posted.createdAt).strike posted.transaction.id
          now.asKept) } := by
  obtain ⟨t, b, _, rfl, hb, hnew, _, hentered⟩ := Desk.post_ok hpost
  obtain ⟨b₁, b₂, hb₁, _, _, hall, hstruck⟩ := Desk.delete_ok hdelete
  obtain ⟨rfl, _⟩ := hall htruth
  rw [he, hentered] at hb₁ hstruck
  obtain rfl := Option.some.inj hb₁
  exact ⟨b, hb, hnew, hstruck⟩

/--
**Taking back undoes posting.** After whatever run from a store without transactions, a transaction is posted and
then taken back, and both succeed at a store that marks the lines it says it marks. The identifier, free before,
is used up, and nothing more is done under it. Beyond that nobody can tell the store from the one before: every run
of questions and operations that does not post under the identifier is answered the same from either, at the same
times and with the same disturbances.
-/
theorem deletion_undoes_posting {start : Desk} {b₀ : Book} (hb₀ : start.store.book = some b₀)
    (hheaders : b₀.headers = []) (hlines : b₀.lines = []) (past : List Turn)
    {policy policy' : FundsPolicy} {deadline : Option Deadline} {m : Moment} {p : Proposal}
    {posted : Posted} {now : Timestamp} {d d₁ e d₂ : Desk}
    (hd : d.store = (start.through past).store)
    (hpost : Desk.post policy deadline m p d = (.ok posted, d₁)) (he : e.store = d₁.store)
    (htruth : e.plan.Truthful)
    (hdelete : Desk.delete policy' now posted.transaction.id e = (.ok (), d₂)) :
    (∃ b b₂, d.store.book = some b ∧ b.phase posted.transaction.id = .absent ∧
      d₂.store.book = some b₂ ∧ b₂.phase posted.transaction.id = .deleted) ∧
    (∀ (o : Operation) (f : Desk), o.Concerns posted.transaction.id → f.store = d₂.store →
      ¬ o.Succeeds f) ∧
    ∀ (f f₂ : Desk), f.store = d.store → f₂.store = d₂.store → f₂.unended = f.unended →
      ∀ turns : List Turn, (∀ t ∈ turns, ¬ t.call.Posts posted.transaction.id) →
        f₂.replies turns = f.replies turns := by
  obtain ⟨b, hb, hnew, hstore⟩ := store_undone hpost he htruth hdelete
  obtain ⟨b', hb', horderly⟩ := Desk.through_orderly hb₀ hheaders hlines past
  obtain rfl : b' = b := Option.some.inj (hb'.symm.trans (by rw [← hd]; exact hb))
  have hb₂ := congrArg Store.book hstore
  have hphase : ((b'.enter posted.transaction posted.createdAt).strike posted.transaction.id
      now.asKept).phase posted.transaction.id = .deleted :=
    (Book.Marked.strike _ _ _).phase ⟨_, List.mem_append_right _ (List.mem_singleton_self _), rfl, rfl⟩
  refine ⟨⟨b', _, hb, Book.phase_of_absent hnew, hb₂, hphase⟩, fun o f ho hf => ?_,
    fun f f₂ hf hf₂ hunended turns hturns => ?_⟩
  · exact (Operation.failed_of_deleted ho (by rw [hf]; exact hb₂) hphase).1
  · -- the two stores differ by deleted rows
    have hbeside : f.store.Beside (Book.Resembles posted.transaction.id) f₂.store := by
      rw [hf, hf₂, hstore]
      refine ⟨?_, rfl⟩
      rw [hb]
      exact .some (Book.resembles_undone hnew horderly.owned posted.createdAt now.asKept)
    exact Desk.replies_eq (fun t ht => Call.agrees_of_other (hturns t ht)) hbeside hunended

namespace Specimen

/-- The desk after the transfer is posted and taken back. -/
def undone : Desk := (Operation.delete .standard noon ⟨"t"⟩).run posted

/-- Questions about the transfer and its accounts, then a transfer of another identifier. -/
def inquiry : List Turn :=
  [⟨.question (.get ⟨"t"⟩), [], true⟩, ⟨.question (.history ⟨"a"⟩), [], true⟩,
    ⟨.question (.balance ⟨"a"⟩), [], true⟩, ⟨request moment "u", [], true⟩]

end Specimen

theorem deletion_undoes_posting_specimen :
    Specimen.undone.replies Specimen.inquiry = Specimen.desk.replies Specimen.inquiry := by
  obtain ⟨posted, hposted⟩ : ∃ posted, Desk.post .standard none Specimen.moment
      (Specimen.transfer "t" Specimen.five Specimen.minusFive) Specimen.desk =
        (.ok posted, Specimen.posted) := ⟨_, rfl⟩
  have hid : posted.transaction.id = ⟨"t"⟩ := by
    cases hposted
    rfl
  have hdelete : Desk.delete .standard Specimen.noon posted.transaction.id Specimen.posted =
      (.ok (), Specimen.undone) := by
    rw [hid]
    rfl
  have hbook : Specimen.desk.store.book = some Specimen.book := rfl
  obtain ⟨_, _, hsame⟩ := deletion_undoes_posting hbook rfl rfl [] rfl hposted rfl (by decide) hdelete
  refine hsame Specimen.desk Specimen.undone rfl rfl rfl Specimen.inquiry ?_
  rw [hid]
  intro t ht
  -- only the last of the calls posts, and under another identifier
  simp only [Specimen.inquiry, List.mem_cons, List.not_mem_nil, or_false] at ht
  rcases ht with rfl | rfl | rfl | rfl
  · exact id
  · exact id
  · exact id
  · have hother : (Specimen.transfer "u" Specimen.five Specimen.minusFive).identity
        ⟨Specimen.moment.fresh⟩ ≠ ⟨"t"⟩ := by decide
    exact hother

end DoubleEntry
