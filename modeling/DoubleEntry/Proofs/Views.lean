import DoubleEntry.Proofs.AccountReading
import DoubleEntry.Proofs.Listing
import DoubleEntry.Proofs.Opposite
import DoubleEntry.Proofs.Readability

/-!
# One balance, however it is looked at

There are many ways to come by the balance of an account: to ask for it alone, or with others in one look; to look
at the account among those found by identifier, by number or by customer; to add up the lines oneself; to go
through the account's history and add up what each transaction moved. They agree as far as they can be read at all.
All but the last are the sum of the account's lines that are not deleted. The last is a sum over transactions that
are not deleted, and it is the same because header and lines are deleted together.
-/

namespace DoubleEntry

open Time

/-! ## The sum over the history -/

namespace Book

variable {b : Book}

theorem balance_eq_linesOn (b : Book) (a : AccountId) :
    b.balance a = ((b.linesOn a).map fun l => l.amount.value).sum := by
  rw [balance_eq_sum, linesOn, sum_filter_map]
  refine congrArg List.sum (List.map_congr_left fun l _ => if_congr ?_ rfl rfl)
  rw [Bool.and_eq_true, decide_eq_true_eq, LineRow.isLive, Option.isNone_iff_eq_none]

/-- What a transaction moves on an account is the sum of its lines there, if none is deleted. -/
theorem netOf_eq_linesOn {id : TransactionId} (hlive : ∀ l ∈ b.linesOf id, l.isLive = true)
    (a : AccountId) :
    b.netOf id a =
      (((b.linesOn a).filter fun l => l.transaction = id).map fun l => l.amount.value).sum := by
  have hrows : (b.linesOf id).filter (fun l => l.account = a) =
      (b.linesOn a).filter fun l => l.transaction = id := by
    unfold linesOf linesOn
    rw [List.filter_filter, List.filter_filter]
    refine List.filter_congr fun l hl => ?_
    rw [Bool.eq_iff_iff]
    simp only [Bool.and_eq_true, decide_eq_true_eq]
    constructor
    · rintro ⟨haccount, hid⟩
      exact ⟨hid, haccount, hlive l (mem_linesOf.mpr ⟨hl, hid⟩)⟩
    · rintro ⟨hid, haccount, _⟩
      exact ⟨haccount, hid⟩
  rw [netOf, hrows, total_eq_sum, List.map_map]
  rfl

/-- A line that is not deleted is one of a transaction that is not. -/
theorem Sound.live_of_line (hb : b.Sound) {l : LineRow} (hl : l ∈ b.lines) (hkept : l.isLive = true) :
    b.Live l.transaction := by
  obtain ⟨h, hh, hid, _, hsame⟩ := hb.header_of_line (mem_linesOf.mpr ⟨hl, rfl⟩)
  refine ⟨h, hh, hid, ?_⟩
  rw [HeaderRow.isLive, ← hsame]
  exact hkept

/-- **What the transactions of a history have moved adds up to the balance.** -/
theorem Sound.sum_listed (hb : b.Sound) (a : AccountId) :
    ((b.listed a).map fun p => p.transaction.net a).sum = b.balance a := by
  -- every identifier that is listed is that of a transaction that is held
  have hnets : ∀ id ∈ b.historyOf a, (b.posted? id).map (fun p => p.transaction.net a) =
      some ((((b.linesOn a).filter fun l => l.transaction = id).map fun l => l.amount.value).sum) := by
    intro id hid
    obtain ⟨l, hl, _, hkept⟩ := mem_historyOf.mp hid
    obtain ⟨hmem, rfl⟩ := mem_linesOf.mp hl
    obtain ⟨p, hp, hheld⟩ := hb.holds (hb.live_of_line hmem hkept)
    rw [← hp, hheld.posted?_eq, Option.map_some, hheld.net_eq, netOf_eq_linesOn hheld.live]
  have hkeys : ∀ l ∈ b.linesOn a, l.transaction ∈ b.historyOf a := by
    intro l hl
    obtain ⟨hmem, hkept⟩ := mem_linesOn.mp hl
    exact mem_historyOf.mpr ⟨l, mem_linesOf.mpr ⟨hmem, rfl⟩, hkept⟩
  calc ((b.listed a).map fun p => p.transaction.net a).sum
      = ((b.historyOf a).filterMap fun id =>
          (b.posted? id).map fun p => p.transaction.net a).sum := by rw [listed, List.map_filterMap]
    _ = ((b.historyOf a).map fun id =>
          (((b.linesOn a).filter fun l => l.transaction = id).map fun l => l.amount.value).sum).sum := by
        rw [List.filterMap_congr hnets, List.filterMap_eq_map']
    _ = ((b.linesOn a).map fun l => l.amount.value).sum := sum_by_key (b.nodup_historyOf a) hkeys
    _ = b.balance a := (b.balance_eq_linesOn a).symm

end Book

/-! ## The views -/

/-- The account is among those found, and wherever it is it has this balance. -/
def Shows (found : List Account) (a : AccountId) (x : Amount) : Prop :=
  (∃ c ∈ found, c.id = a) ∧ ∀ c ∈ found, c.id = a → c.balance = x

/-- Accounts with exact balances show an account among them with its own. -/
theorem Shows.of_exact {b : Book} {found : List Account} {a : AccountId} {x : Amount}
    (hx : x.value = b.balance a) (hfound : ∃ c ∈ found, c.id = a)
    (hexact : ∀ c ∈ found, c.balance.value = b.balance c.id) : Shows found a x := by
  refine ⟨hfound, fun c hc hid => Amount.ext_value ?_⟩
  rw [hexact c hc, hid, hx]

/-- However the balance of an account is looked at, it is this. -/
structure Agreed (b : Book) (d : Desk) (r : AccountRow) (x : Amount) : Prop where
  /-- It is the sum of the account's lines that are not deleted. -/
  exact : x.value = ((b.linesOn r.id).map fun l => l.amount.value).sum
  /-- It is what is read when the account is asked for alone. -/
  alone : (Desk.balance r.id d).1 = .ok x
  /-- It is what is read with those of other accounts, in any order and however often, if all are in range. -/
  together : ∀ ids, r.id ∈ ids → (∀ i ∈ ids, Amount.Fits (b.balance i)) →
    ∃ bs, (Desk.readBalances ids d).1 = .ok bs ∧ bs.map AccountBalance.account = ids ∧
      ∀ y ∈ bs, y.account = r.id → y.balance = x
  /-- The account has it when found by identifier, if those of the other accounts found are in range. -/
  identified : ∀ ids, r.id ∈ ids →
    (∀ s ∈ b.accounts, s.isLive = true → s.id ∈ ids → Amount.Fits (b.balance s.id)) →
      ∃ found, (Desk.accounts ids d).1 = .ok found ∧ Shows found r.id x
  /-- The account has it when a search by number comes upon it. -/
  searched : ∀ number routing kind, (b.accounts.find? fun a => decide (a.number = number ∧
      a.routing = routing ∧ Text.lower a.kind = Text.lower kind) && a.isLive) = some r →
    ∃ c, (Desk.search number routing kind d).1 = .ok (some c) ∧ c.id = r.id ∧ c.balance = x
  /-- The account has it among its customer's, if those of the customer's other accounts are in range. -/
  owned : (∀ s ∈ b.accounts, s.customer = r.customer → s.isLive = true →
      Amount.Fits (b.balance s.id)) →
    ∃ found, (Desk.accountsOf r.customer d).1 = .ok found ∧ Shows found r.id x
  /-- It is the tally of all lines. -/
  tallied : balanceOf r.id (b.lines.map LineRow.entry) = x.value
  /-- It is what the transactions of the account's history have moved. -/
  moved : ∃ found, (Desk.history r.id d).1 = .ok found ∧
    (found.map fun p => p.transaction.net r.id).sum = x.value

theorem Book.Sound.agreed {b : Book} (hb : b.Sound) (hlegible : ∀ r ∈ b.accounts, r.Legible)
    {d : Desk} (hcalm : d.Calm) (hbook : d.store.book = some b) {r : AccountRow}
    (hr : r ∈ b.accounts) (hkept : r.isLive = true) {x : Amount} (hx : x.value = b.balance r.id) :
    Agreed b d r x where
  exact := by rw [hx, b.balance_eq_linesOn]
  alone := (Desk.balance_calm hcalm hbook r.id x).mpr hx
  together := by
    intro ids hmem hfits
    obtain ⟨bs, hread, haccounts, hexact⟩ :=
      Desk.readBalances_calm hcalm hbook (List.ne_nil_of_mem hmem) hfits
    refine ⟨bs, by rw [hread], haccounts, fun y hy hid => Amount.ext_value ?_⟩
    rw [hexact y hy, hid, hx]
  identified := by
    intro ids hmem hfits
    have hrow : r ∈ b.liveAccounts ids := mem_liveAccounts.mpr ⟨hr, hmem, hkept⟩
    have hrange : ∀ s ∈ b.liveAccounts ids, Amount.Fits (b.balance s.id) := by
      intro s hs
      obtain ⟨hsmem, hwanted, hlive⟩ := mem_liveAccounts.mp hs
      exact hfits s hsmem hlive hwanted
    obtain ⟨found, hfound, hids, hexact⟩ :=
      Desk.accounts_calm hcalm hbook hlegible (List.ne_nil_of_mem hrow) hrange
    have hid : r.id ∈ found.map Account.id := by
      rw [hids]
      exact List.mem_map_of_mem hrow
    exact ⟨found, by rw [hfound], .of_exact hx (List.mem_map.mp hid) hexact⟩
  searched := by
    intro number routing kind hfind
    obtain ⟨c, hsearch, hid, hvalue⟩ :=
      Desk.search_calm hcalm hbook hlegible hfind (hx ▸ x.fits)
    exact ⟨c, hsearch, hid, Amount.ext_value (hvalue.trans hx.symm)⟩
  owned := by
    intro hfits
    obtain ⟨found, hfound, hthere, hexact⟩ :=
      Desk.accountsOf_calm hcalm hbook hlegible hr hkept hfits
    exact ⟨found, hfound, .of_exact hx hthere hexact⟩
  tallied := hx.symm
  moved := by
    have hhistory := Desk.history_calm hcalm hbook hb.orderly r.id
    exact ⟨b.listed r.id, by rw [hhistory], (hb.sum_listed r.id).trans hx.symm⟩

/--
**All views of the balance of an account agree**, whatever run has gone before and whatever accounts were removed on
the way, if the exact balance is in range and so are those that are read with it. An account without lines has a
balance of zero in each of them.
-/
theorem balances_agree {allowed : FundsPolicy → Prop} {start : Store} {b₀ : Book}
    (hstart : start.Unused b₀) (hlegible : ∀ r ∈ b₀.accounts, r.Legible) {last : Desk}
    (hrun : Visited allowed start last) {d : Desk} (hcalm : d.Calm) (hstore : d.store = last.store) :
    ∃ b, d.store.book = some b ∧ ∀ r ∈ b.accounts, r.isLive = true →
      (Amount.Fits (b.balance r.id) → ∃ x, Agreed b d r x) ∧
      (b.linesOn r.id = [] → Agreed b d r .zero) := by
  obtain ⟨b, hb, hsound⟩ := hrun.sound hstart
  obtain ⟨b₁, hb₁, hread⟩ := hrun.legible_accounts hstart.book hlegible
  obtain rfl : b₁ = b := Option.some.inj (hb₁.symm.trans hb)
  rw [← hstore] at hb
  refine ⟨b₁, hb, fun r hr hkept => ⟨fun hfits => ?_, fun hnone => ?_⟩⟩
  · obtain ⟨x, _, hx⟩ := Amount.ofInt?_of_fits hfits
    exact ⟨x, hsound.agreed hread hcalm hb hr hkept hx⟩
  · have hzero : Amount.zero.value = b₁.balance r.id := by
      rw [b₁.balance_eq_linesOn, hnone]
      rfl
    exact hsound.agreed hread hcalm hb hr hkept hzero

theorem balances_agree_specimen :
    ∃ b r x, Specimen.posted.store.book = some b ∧ r.id = ⟨"a"⟩ ∧ x.value = 5 ∧
      Agreed b Specimen.posted r x := by
  have hlegible : ∀ r ∈ Specimen.book.accounts, r.Legible := by
    have hopen : ∀ r ∈ Specimen.book.accounts, AccountStatus.ofText? r.status = some .opened := by
      decide
    exact fun r hr => ⟨.opened, hopen r hr⟩
  have hstart : Specimen.store.Unused Specimen.book := ⟨rfl, by decide, rfl, rfl⟩
  obtain ⟨b, hb, hagreed⟩ := balances_agree hstart hlegible (.reached Specimen.posted_reached)
    ⟨by decide, by decide⟩ rfl
  have hbook : Specimen.posted.store.book = some (Specimen.posted.store.book.getD .empty) := by decide
  obtain rfl := Option.some.inj (hbook.symm.trans hb)
  have hsum : (Specimen.posted.store.book.getD .empty).balance ⟨"a"⟩ = 5 := by decide
  obtain ⟨hfitting, _⟩ := hagreed (Specimen.account "a") (by decide) (by decide)
  obtain ⟨x, hx⟩ := hfitting (by unfold Amount.Fits; decide)
  refine ⟨_, _, x, hb, rfl, ?_, hx⟩
  rw [hx.exact, ← Book.balance_eq_linesOn]
  exact hsum

end DoubleEntry
