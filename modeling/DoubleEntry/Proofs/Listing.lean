import DoubleEntry.Proofs.AppendOnly
import DoubleEntry.Proofs.Chronology
import DoubleEntry.Proofs.Orderly

/-!
# The history of an account

The history of an account is put together from three looks: the identifiers of the transactions with a line on it,
then their headers, then their lines, those on other accounts too. In books that are in order it is a list of the
transactions that are not deleted and have a line on the account, each once, each as it is when it is looked up
alone, and the newest first. The time that counts is the one at which the store created the rows, so of two postings
the one that was made later by the clock comes first.
-/

namespace DoubleEntry

open Time

/-! ## Newer and older -/

/-- What a transaction is listed by. -/
def Posted.rank (p : Posted) : List Int ×ₗ String := Book.rank (p.transaction.id, some p.createdAt)

/-- The first transaction was created later, or at the same time under a greater identifier. -/
def Posted.Newer (p q : Posted) : Prop :=
  q.createdAt.before p.createdAt = true ∨
    (q.createdAt = p.createdAt ∧ q.transaction.id.text < p.transaction.id.text)

theorem Posted.newer_iff {p q : Posted} : p.Newer q ↔ q.rank < p.rank := Book.rank_lt.symm

theorem Posted.Newer.asymm {p q : Posted} (h : p.Newer q) : ¬ q.Newer p := by
  rw [newer_iff] at h ⊢
  exact lt_asymm h

/-- Of two elements of an ordered list, the first in order stands ahead. -/
theorem pair_sublist {α : Type} {R : α → α → Prop} (hasymm : ∀ x y, R x y → ¬ R y x) {l : List α}
    (hl : l.Pairwise R) {x y : α} (hx : x ∈ l) (hy : y ∈ l) (hxy : R x y) : [x, y].Sublist l := by
  induction l with
  | nil => exact absurd hx (by simp)
  | cons z rest ih =>
    obtain ⟨hz, hrest⟩ := List.pairwise_cons.mp hl
    rcases List.mem_cons.mp hx with rfl | hx'
    · rcases List.mem_cons.mp hy with rfl | hy'
      · exact absurd hxy (hasymm _ _ hxy)
      · exact List.Sublist.cons_cons _ (List.singleton_sublist.mpr hy')
    · rcases List.mem_cons.mp hy with rfl | hy'
      · exact absurd (hz x hx') (hasymm _ _ hxy)
      · exact (ih hrest hx' hy').cons z

/-! ## Which identifiers are listed -/

namespace Book

variable {b : Book} {account : AccountId} {id : TransactionId}

/-- The lines on an account that are not deleted. -/
def linesOn (b : Book) (account : AccountId) : List LineRow :=
  b.lines.filter fun l => decide (l.account = account) && l.isLive

theorem mem_linesOn {l : LineRow} :
    l ∈ b.linesOn account ↔ l ∈ b.lines ∧ l.account = account ∧ l.isLive = true := by
  unfold linesOn
  rw [List.mem_filter, Bool.and_eq_true, decide_eq_true_eq]

/-- The identifiers on these lines, each once. -/
def textsOn (b : Book) (account : AccountId) : List String :=
  Order.distinctTexts ((b.linesOn account).map fun l => l.transaction.text)

/-- The history sorts these identifiers by their latest times. -/
theorem historyOf_eq (b : Book) (account : AccountId) :
    b.historyOf account = (Order.sort newer
      ((b.textsOn account).map fun s => (⟨s⟩, b.latestOn account ⟨s⟩))).map Prod.fst := rfl

theorem historyOf_perm (b : Book) (account : AccountId) :
    (b.historyOf account).Perm ((b.textsOn account).map TransactionId.mk) := by
  have hperm := (Order.sort_perm newer
    ((b.textsOn account).map fun s => ((⟨s⟩ : TransactionId), b.latestOn account ⟨s⟩))).map Prod.fst
  rw [List.map_map] at hperm
  exact hperm

theorem nodup_historyOf (b : Book) (account : AccountId) : (b.historyOf account).Nodup := by
  have hdistinct : (b.textsOn account).Nodup :=
    @Order.nodup_of_sorted _ id _ (Order.distinctTexts_sorted _)
  refine (historyOf_perm b account).nodup_iff.mpr (hdistinct.map fun s t h => ?_)
  exact TransactionId.mk.inj h

theorem mem_historyOf :
    id ∈ b.historyOf account ↔ ∃ l ∈ b.linesOf id, l.account = account ∧ l.isLive = true := by
  rw [(historyOf_perm b account).mem_iff, List.mem_map]
  constructor
  · rintro ⟨s, hs, rfl⟩
    obtain ⟨l, hl, rfl⟩ := List.mem_map.mp (Order.mem_distinctTexts.mp hs)
    obtain ⟨hmem, hkept⟩ := mem_linesOn.mp hl
    exact ⟨l, mem_linesOf.mpr ⟨hmem, rfl⟩, hkept⟩
  · rintro ⟨l, hl, hkept⟩
    obtain ⟨hmem, rfl⟩ := mem_linesOf.mp hl
    have hl : l ∈ b.linesOn account := mem_linesOn.mpr ⟨hmem, hkept⟩
    exact ⟨_, Order.mem_distinctTexts.mpr (List.mem_map.mpr ⟨l, hl, rfl⟩), rfl⟩

/-! ## What they are ranked by -/

/-- Where all lines of a transaction were created at one time, that is the latest. -/
theorem latestOn_eq {t : Timestamp} (hall : ∀ l ∈ b.linesOf id, l.createdAt = t)
    (hlisted : id ∈ b.historyOf account) : b.latestOn account id = some t := by
  obtain ⟨l, hl, haccount, hlive⟩ := mem_historyOf.mp hlisted
  obtain ⟨hmem, hid⟩ := mem_linesOf.mp hl
  have hrow : l ∈ b.lines.filter fun l =>
      decide (l.account = account ∧ l.transaction = id) && l.isLive := by
    refine List.mem_filter.mpr ⟨hmem, ?_⟩
    rw [hlive, Bool.and_true]
    exact decide_eq_true ⟨haccount, hid⟩
  refine Timestamp.foldl_latest (List.ne_nil_of_mem (List.mem_map_of_mem hrow)) ?_
  intro u hu
  obtain ⟨k, hk, rfl⟩ := List.mem_map.mp hu
  obtain ⟨hkmem, hcond⟩ := List.mem_filter.mp hk
  rw [Bool.and_eq_true, decide_eq_true_eq] at hcond
  exact hall k (mem_linesOf.mpr ⟨hkmem, hcond.1.2⟩)

theorem Orderly.latestOn_header (hb : b.Orderly) {h : HeaderRow} (hh : h ∈ b.headers)
    (hlisted : h.id ∈ b.historyOf account) : b.latestOn account h.id = some h.createdAt :=
  latestOn_eq (hb.created h hh) hlisted

/-- Every transaction that is listed has a header. -/
theorem Orderly.header_of_listed (hb : b.Orderly) (hlisted : id ∈ b.historyOf account) :
    ∃ h ∈ b.headers, h.id = id := by
  obtain ⟨l, hl, _⟩ := mem_historyOf.mp hlisted
  obtain ⟨hmem, rfl⟩ := mem_linesOf.mp hl
  exact hasHeader_iff.mp (hb.owned l hmem)

/-- No identifier ranks above one that stands ahead of it. -/
theorem Orderly.historyOf_ranked (hb : b.Orderly) (account : AccountId) :
    (b.historyOf account).Pairwise fun i j =>
      rank (j, b.latestOn account j) ≤ rank (i, b.latestOn account i) := by
  have hknown : ∀ s ∈ b.textsOn account, ∃ t, b.latestOn account ⟨s⟩ = some t := by
    intro s hs
    have hlisted : ⟨s⟩ ∈ b.historyOf account :=
      (historyOf_perm b account).mem_iff.mpr (List.mem_map_of_mem hs)
    obtain ⟨h, hh, hid⟩ := hb.header_of_listed hlisted
    rw [← hid] at hlisted ⊢
    exact ⟨h.createdAt, hb.latestOn_header hh hlisted⟩
  -- so the comparison that is sorted by is that of ranks
  have hcompared : ∀ x ∈ (b.textsOn account).map fun s =>
      ((⟨s⟩ : TransactionId), b.latestOn account ⟨s⟩),
      ∀ y ∈ (b.textsOn account).map fun s => ((⟨s⟩ : TransactionId), b.latestOn account ⟨s⟩),
        newer y x = decide (rank x < rank y) := by
    intro x hx y hy
    obtain ⟨s, hs, rfl⟩ := List.mem_map.mp hx
    obtain ⟨t, ht, rfl⟩ := List.mem_map.mp hy
    obtain ⟨u, hu⟩ := hknown s hs
    obtain ⟨v, hv⟩ := hknown t ht
    rw [hu, hv]
    exact newer_eq _ _ _ _
  rw [historyOf_eq]
  refine List.pairwise_map.mpr ?_
  refine (List.Pairwise.and_mem.mp (Order.sort_descending hcompared)).imp ?_
  rintro x y ⟨hx, hy, hle⟩
  -- each pair consists of an identifier and its own latest time
  obtain ⟨s, _, rfl⟩ := List.mem_map.mp (Order.mem_sort.mp hx)
  obtain ⟨t, _, rfl⟩ := List.mem_map.mp (Order.mem_sort.mp hy)
  exact hle

/-! ## The transactions that are listed -/

/-- The history of an account as the books have it. -/
def listed (b : Book) (account : AccountId) : List Posted := (b.historyOf account).filterMap b.posted?

/-- **Listed is what is held and has a line on the account.** -/
theorem Orderly.mem_listed (hb : b.Orderly) {p : Posted} :
    p ∈ b.listed account ↔ b.Holds p ∧ b.Involves p.transaction.id account := by
  unfold listed
  rw [List.mem_filterMap]
  constructor
  · rintro ⟨id, hlisted, hfound⟩
    obtain ⟨rfl, hp⟩ := hb.posted?_eq_some.mp hfound
    obtain ⟨l, hl, haccount, _⟩ := mem_historyOf.mp hlisted
    exact ⟨hp, l, hl, haccount⟩
  · rintro ⟨hp, l, hl, haccount⟩
    exact ⟨p.transaction.id, mem_historyOf.mpr ⟨l, hl, haccount, hp.live l hl⟩, hp.posted?_eq⟩

/-- Nothing is listed twice. -/
theorem Orderly.listed_nodup (hb : b.Orderly) (account : AccountId) :
    ((b.listed account).map fun p => p.transaction.id).Nodup := by
  unfold listed
  refine List.pairwise_map.mpr (List.pairwise_filterMap.mpr ?_)
  refine (b.nodup_historyOf account).imp ?_
  intro i j hne p hp q hq
  obtain ⟨rfl, _⟩ := hb.posted?_eq_some.mp hp
  obtain ⟨rfl, _⟩ := hb.posted?_eq_some.mp hq
  exact hne

/-- **The newest is listed first.** -/
theorem Orderly.listed_sorted (hb : b.Orderly) (account : AccountId) :
    (b.listed account).Pairwise Posted.Newer := by
  have hrank : ∀ p, b.Holds p → p.transaction.id ∈ b.historyOf account →
      rank (p.transaction.id, b.latestOn account p.transaction.id) = p.rank := by
    intro p hp hlisted
    obtain ⟨h, hh, hid⟩ := hb.header_of_listed hlisted
    rw [← hid] at hlisted
    rw [← hid, hb.latestOn_header hh hlisted, hp.header_eq hh hid]
    rfl
  have hordered := (hb.historyOf_ranked account).and (b.nodup_historyOf account)
  refine List.pairwise_filterMap.mpr ((List.Pairwise.and_mem.mp hordered).imp ?_)
  rintro i j ⟨hi, hj, hle, hne⟩ p hp q hq
  obtain ⟨rfl, hpheld⟩ := hb.posted?_eq_some.mp hp
  obtain ⟨rfl, hqheld⟩ := hb.posted?_eq_some.mp hq
  rw [hrank p hpheld hi, hrank q hqheld hj] at hle
  -- two ranks with different identifiers are not the same
  refine Posted.newer_iff.mpr (lt_of_le_of_ne hle fun hsame => hne ?_)
  have htext : q.transaction.id.text = p.transaction.id.text :=
    congrArg (fun r => (ofLex r).2) hsame
  cases hpid : p.transaction.id
  cases hqid : q.transaction.id
  rw [hpid, hqid] at htext
  exact congrArg TransactionId.mk htext.symm

end Book

/-! ## Reading a history -/

namespace Desk

variable {d : Desk} {b : Book}

/-- Once the desk is ready a load answers what is in the books, be it of no transactions at all. -/
theorem load_ready (h : d.Calm) (hb : d.store.book = some b) (hlegible : ∀ r ∈ b.lines, r.Legible)
    {ids : List TransactionId} (hids : ids.Nodup) :
    load ids d.ready = (.ok (ids.filterMap b.posted?), d.ready) := by
  cases ids with
  | nil => rfl
  | cons id rest =>
    have hloaded : b.loaded (id :: rest) = .ok ((id :: rest).filterMap b.posted?) :=
      Book.loaded_eq hids fun r hr _ _ => hlegible r hr
    rw [load_calm h.ready hb (List.cons_ne_nil _ _), hloaded]
    rfl

theorem history_calm (h : d.Calm) (hb : d.store.book = some b) (horderly : b.Orderly)
    (account : AccountId) : history account d = (.ok (b.listed account), d.ready) := by
  have hids : orGiveUp (accountHistory account) d.ready = (.ok (b.historyOf account), d.ready) := by
    rw [orGiveUp, accountHistory, ask_calm h.ready hb]
    rfl
  have hload := load_ready h hb horderly.legible (b.nodup_historyOf account)
  rw [history, Work.bind_of_ok (Work.mapError_of_ok (openSnapshot_calm h)),
    Work.bind_of_ok (Work.mapError_of_ok hids), closing_calm hload h.ready]
  rfl

end Desk

/-! ## Postings by the clock -/

/-- The transaction that the operation has posted and the time by the clock, if it has. -/
def Operation.posting? : Operation → Desk → Option (TransactionId × Timestamp)
  | create _ _, _ => none
  | post policy deadline m p, d =>
    match (Desk.post policy deadline m p d).1 with
    | .ok posted => some (posted.transaction.id, m.now)
    | .error _ => none
  | delete _ _ _, _ => none

def Call.posting? : Call → Desk → Option (TransactionId × Timestamp)
  | operation o, d => o.posting? d
  | question _, _ => none

/-- What some turns have posted, each with the time by the clock. -/
def Desk.postings (d : Desk) : List Turn → List (TransactionId × Timestamp)
  | [] => []
  | t :: rest =>
    (t.call.posting? (d.facing t)).toList ++ (t.call.run (d.facing t)).postings rest

/-- What was posted has a header, created at the time by the clock. -/
theorem Operation.posting_header {o : Operation} {d : Desk} {id : TransactionId} {now : Timestamp}
    (h : o.posting? d = some (id, now)) :
    ∃ b', (o.run d).store.book = some b' ∧
      ∃ x ∈ b'.headers, x.id = id ∧ x.createdAt = now.wholeMicros.asKept := by
  cases o with
  | create m r => cases h
  | delete policy now' i => cases h
  | post policy deadline m p =>
      unfold posting? at h
      dsimp only at h
      cases hanswer : (Desk.post policy deadline m p d).1 with
      | error e =>
          rw [hanswer] at h
          cases h
      | ok posted =>
          rw [hanswer] at h
          cases h
          rcases (post policy deadline m p).outcome d with ⟨_, hfailed⟩ | ⟨_, b, b', _, hmade, hstore⟩
          · exact absurd ⟨posted, hanswer⟩ hfailed
          · cases hmade with
            | @entered _ _ _ _ posted' hanswer' _ hcreated _ =>
              obtain rfl : posted' = posted := Except.ok.inj (hanswer'.symm.trans hanswer)
              refine ⟨_, by rw [hstore], _,
                List.mem_append_right _ (List.mem_singleton_self _), rfl, ?_⟩
              dsimp only
              rw [hcreated]

/-- **What was posted keeps its time** to the end of the run. -/
theorem Desk.postings_header {d : Desk} {b : Book} (hb : d.store.book = some b)
    {turns : List Turn} {id : TransactionId} {now : Timestamp} (h : (id, now) ∈ d.postings turns) :
    ∃ b', (d.through turns).store.book = some b' ∧
      ∃ x ∈ b'.headers, x.id = id ∧ x.createdAt = now.wholeMicros.asKept := by
  induction turns generalizing d b with
  | nil => exact absurd h (by simp [postings])
  | cons t rest ih =>
    have hfacing : (d.facing t).store.book = some b := hb
    rcases List.mem_append.mp h with hfirst | hrest
    · rw [Option.mem_toList] at hfirst
      cases hcall : t.call with
      | question q =>
          rw [hcall] at hfirst
          cases hfirst
      | operation o =>
          rw [hcall] at hfirst
          obtain ⟨b₁, hb₁, x, hx, hid, hcreated⟩ := Operation.posting_header hfirst
          -- the header stays, and so does its time
          obtain ⟨_, b', hb', hextends⟩ := Desk.through_extends hb₁ rest
          obtain ⟨y, hy, hkept⟩ := hextends.headers.exists_kept hx
          refine ⟨b', ?_, y, hy, hkept.id_eq.trans hid, hkept.createdAt_eq.trans hcreated⟩
          rw [through, hcall]
          exact hb'
    · obtain ⟨_, b₁, hstore, _⟩ := t.call.extends hfacing
      exact ih (b := b₁) (by rw [hstore]) hrest

/-! ## Every history -/

/--
**A history lists each transaction that is there and has a line on the account, once, whole and the newest
first.** This holds after every run from a store without transactions, whatever went wrong on the way. Of two
postings the one made in a later microsecond by the clock, which shows no leap seconds, stands ahead.
-/
theorem history_listed {d : Desk} {b : Book} (hb : d.store.book = some b) (hheaders : b.headers = [])
    (hlines : b.lines = []) (turns : List Turn) (account : AccountId) {reader : Desk}
    (hcalm : reader.Calm) (hstore : reader.store = (d.through turns).store) :
    ∃ b' found, (d.through turns).store.book = some b' ∧
      (Desk.history account reader).1 = .ok found ∧
      (∀ id, (∃ p ∈ found, p.transaction.id = id) ↔ b'.Live id ∧ b'.Involves id account) ∧
      (found.map fun p => p.transaction.id).Nodup ∧
      (∀ p ∈ found, b'.Holds p ∧ (Desk.get p.transaction.id reader).1 = .ok p) ∧
      found.Pairwise Posted.Newer ∧
      ∀ id₁ now₁ id₂ now₂, (id₁, now₁) ∈ d.postings turns → (id₂, now₂) ∈ d.postings turns →
        now₁.second ≠ 60 → now₂.second ≠ 60 → now₁.wholeMicros.before now₂.wholeMicros = true →
          ∀ p₁ ∈ found, ∀ p₂ ∈ found, p₁.transaction.id = id₁ → p₂.transaction.id = id₂ →
            [p₂, p₁].Sublist found := by
  obtain ⟨b', hb', horderly⟩ := Desk.through_orderly hb hheaders hlines turns
  have hread : reader.store.book = some b' := by rw [hstore]; exact hb'
  have hhistory := Desk.history_calm hcalm hread horderly account
  refine ⟨b', b'.listed account, hb', by rw [hhistory], fun id => ?_, horderly.listed_nodup account,
    fun p hp => ?_, horderly.listed_sorted account, ?_⟩
  · constructor
    · rintro ⟨p, hp, rfl⟩
      obtain ⟨hheld, hinvolved⟩ := horderly.mem_listed.mp hp
      exact ⟨hheld.live_header, hinvolved⟩
    · rintro ⟨hlive, hinvolved⟩
      obtain ⟨p, rfl, hheld⟩ := horderly.holds hlive
      exact ⟨p, horderly.mem_listed.mpr ⟨hheld, hinvolved⟩, rfl⟩
  · obtain ⟨hheld, _⟩ := horderly.mem_listed.mp hp
    rw [Desk.get_held hcalm hread hheld]
    exact ⟨hheld, rfl⟩
  · rintro _ now₁ _ now₂ hposted₁ hposted₂ hplain₁ hplain₂ hlater p₁ hp₁ p₂ hp₂ rfl rfl
    have hcreated : ∀ p ∈ b'.listed account, ∀ now, (p.transaction.id, now) ∈ d.postings turns →
        now.second ≠ 60 → p.createdAt = now.wholeMicros := by
      intro p hp now hposted hplain
      obtain ⟨b₁, hb₁, x, hx, hid, hx'⟩ := Desk.postings_header hb hposted
      obtain rfl : b₁ = b' := Option.some.inj (hb₁.symm.trans hb')
      obtain ⟨hheld, _⟩ := horderly.mem_listed.mp hp
      rw [hheld.header_eq hx hid, Timestamp.asKept_wholeMicros hplain] at hx'
      exact hx'
    have hnewer : p₂.Newer p₁ := by
      refine Or.inl ?_
      rw [hcreated p₁ hp₁ now₁ hposted₁ hplain₁, hcreated p₂ hp₂ now₂ hposted₂ hplain₂]
      exact hlater
    exact pair_sublist (fun _ _ h => h.asymm) (horderly.listed_sorted account) hp₂ hp₁ hnewer

namespace Specimen

/-- The same time, a second later. -/
def afternoon : Timestamp := { noon with second := 3, second_le := by decide }

/-- Two transfers, the second a second after the first. -/
def diary : List Turn :=
  [⟨request moment "t", [], true⟩, ⟨request { moment with now := afternoon } "s", [], true⟩]

end Specimen

theorem history_listed_specimen :
    ∃ found, (Desk.history ⟨"a"⟩ (Specimen.desk.through Specimen.diary)).1 = .ok found ∧
      ∃ p₁ ∈ found, ∃ p₂ ∈ found, p₁.transaction.id = ⟨"t"⟩ ∧ p₂.transaction.id = ⟨"s"⟩ ∧
        [p₂, p₁].Sublist found := by
  have hcalm : (Specimen.desk.through Specimen.diary).Calm := ⟨by decide, by decide⟩
  obtain ⟨b', found, hb', hfound, hlisted, _, _, _, hclock⟩ := history_listed (d := Specimen.desk)
    (b := Specimen.book) rfl rfl rfl Specimen.diary ⟨"a"⟩ hcalm rfl
  have hbook : (Specimen.desk.through Specimen.diary).store.book =
      some ((Specimen.desk.through Specimen.diary).store.book.getD .empty) := by decide
  obtain rfl := Option.some.inj (hbook.symm.trans hb')
  have hthere : ∀ id ∈ [(⟨"t"⟩ : TransactionId), ⟨"s"⟩],
      ((Specimen.desk.through Specimen.diary).store.book.getD .empty).Live id ∧
        ((Specimen.desk.through Specimen.diary).store.book.getD .empty).Involves id ⟨"a"⟩ := by
    unfold Book.Live Book.Involves
    decide
  obtain ⟨p₁, hp₁, hid₁⟩ := (hlisted ⟨"t"⟩).mpr (hthere _ (by decide))
  obtain ⟨p₂, hp₂, hid₂⟩ := (hlisted ⟨"s"⟩).mpr (hthere _ (by decide))
  refine ⟨found, hfound, p₁, hp₁, p₂, hp₂, hid₁, hid₂, ?_⟩
  exact hclock _ Specimen.noon _ Specimen.afternoon (by decide) (by decide) (by decide) (by decide)
    (by decide) p₁ hp₁ p₂ hp₂ hid₁ hid₂

end DoubleEntry
