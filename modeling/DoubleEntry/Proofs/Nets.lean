import DoubleEntry.Proofs.Offenders
import DoubleEntry.Proofs.Opposite

/-!
# The views of a transaction

The accounts of a transaction, the net of each, the total and whether an account is touched are computed from
the lines in four ways. They agree for any lines: the nets are listed for the accounts that are touched,
ascending, each is the balance that the lines alone would give, and together they come to the total. The order
of the lines does not matter, and a transaction that is taken back has the same accounts with opposite nets.
-/

namespace DoubleEntry

/-! ## The nets and the balances -/

namespace Line

/-- The line as an entry in the books that is not deleted. -/
def entry (l : Line) : Entry := ⟨l.account, l.amount, none⟩

/-- The net of an account is the balance that the lines alone would give. -/
theorem balanceOf_entries (lines : List Line) (a : AccountId) :
    balanceOf a (lines.map entry) = net lines a := by
  rw [balanceOf, net, List.filter_map, List.map_map]
  refine congrArg (fun kept => total (List.map amount kept)) (List.filter_congr fun l _ => ?_)
  exact decide_eq_decide.mpr (and_iff_left rfl)

/-- Which accounts there are does not depend on the order of the lines. -/
theorem accounts_perm {as bs : List Line} (h : as.Perm bs) : accounts as = accounts bs :=
  Order.eq_of_sorted (accounts_sorted as) (accounts_sorted bs) fun a => by
    rw [mem_accounts, mem_accounts]
    exact exists_congr fun l => and_congr_left fun _ => h.mem_iff

/-! ## Taking back -/

/-- The other line moves the opposite, on the same account and for the same purpose. -/
structure Opposite (l r : Line) : Prop where
  account : r.account = l.account
  purpose : r.purpose = l.purpose
  amount : r.amount.value = -l.amount.value

theorem reversed?_iff {l r : Line} : l.reversed? = some r ↔ l.Opposite r := by
  rw [reversed?, Option.map_eq_some_iff]
  constructor
  · rintro ⟨a, ha, rfl⟩
    exact ⟨rfl, rfl, Amount.ofInt?_eq_some.mp ha⟩
  · rintro ⟨haccount, hpurpose, hamount⟩
    refine ⟨r.amount, Amount.ofInt?_eq_some.mpr hamount, ?_⟩
    rw [← haccount, ← hpurpose]

theorem Opposite.symm {l r : Line} (h : l.Opposite r) : r.Opposite l :=
  ⟨h.account.symm, h.purpose.symm, by have := h.amount; omega⟩

end Line

namespace Transaction

/-- Lines are taken back one by one. -/
theorem reversedLines_iff {lines rs : List Line} :
    reversedLines lines = .ok rs ↔ List.Forall₂ Line.Opposite lines rs := by
  induction lines generalizing rs with
  | nil =>
    rw [List.forall₂_nil_left_iff, reversedLines, Except.ok.injEq]
    exact eq_comm
  | cons l rest ih =>
    rw [List.forall₂_cons_left_iff, reversedLines]
    cases hl : l.reversed? with
    | none =>
        refine iff_of_false (fun h => by cases h) ?_
        rintro ⟨r, others, hr, _, _⟩
        rw [Line.reversed?_iff.mpr hr] at hl
        cases hl
    | some r =>
        dsimp only
        constructor
        · intro h
          cases hrest : reversedLines rest with
          | error k => rw [hrest] at h; cases h
          | ok others =>
              rw [hrest] at h
              cases h
              exact ⟨r, others, Line.reversed?_iff.mp hl, ih.mp hrest, rfl⟩
        · rintro ⟨r', others, hr', hothers, rfl⟩
          rw [Line.reversed?_iff.mpr hr'] at hl
          rw [ih.mpr hothers, Option.some.inj hl]
          rfl

/-- The other transaction is this one with every line taken back. -/
structure Reverses (t r : Transaction) : Prop where
  id : r.id = t.id
  timestamp : r.timestamp = t.timestamp
  lines : List.Forall₂ Line.Opposite t.lines r.lines

theorem reversed_iff {t r : Transaction} : t.reversed = .ok r ↔ t.Reverses r := by
  unfold reversed
  constructor
  · intro h
    cases hlines : reversedLines t.lines with
    | error l => rw [hlines] at h; cases h
    | ok rs =>
        rw [hlines] at h
        cases h
        exact ⟨rfl, rfl, reversedLines_iff.mp hlines⟩
  · rintro ⟨hid, htimestamp, hlines⟩
    rw [reversedLines_iff.mpr hlines, ← hid, ← htimestamp]
    rfl

theorem Reverses.symm {t r : Transaction} (h : t.Reverses r) : r.Reverses t :=
  ⟨h.id.symm, h.timestamp.symm, h.lines.flip.imp fun _ _ => Line.Opposite.symm⟩

/-- What a transaction that is taken back involves, and by how much it moves it. -/
structure Mirrors (t r : Transaction) : Prop where
  accounts : r.accounts = t.accounts
  nets : r.nets = t.nets.map fun e => (e.1, -e.2)
  total : r.total = -t.total

theorem Reverses.mirrors {t r : Transaction} (h : t.Reverses r) : t.Mirrors r := by
  have hreversed := reversed_iff.mpr h
  have haccounts : r.accounts = t.accounts := by
    have htexts : (r.lines.map fun l => l.account.text) = t.lines.map fun l => l.account.text := by
      have hsame := reversedLines_accounts (reversedLines_iff.mpr h.lines)
      have := congrArg (List.map AccountId.text) hsame
      rwa [List.map_map, List.map_map] at this
    rw [accounts, accounts, Line.accounts, Line.accounts, htexts]
  refine ⟨haccounts, ?_, ?_⟩
  · rw [nets, nets, Line.nets_eq, Line.nets_eq, List.map_map, ← accounts, haccounts]
    refine List.map_congr_left fun a _ => ?_
    exact congrArg (Prod.mk a) (net_reversed hreversed a)
  · have hopposite : r.accounts.map r.net = (t.accounts.map t.net).map fun n => -n := by
      rw [haccounts, List.map_map]
      exact List.map_congr_left fun a _ => net_reversed hreversed a
    rw [← sum_nets, ← sum_nets, hopposite, List.sum_neg]

/-! ## The views agree -/

/-- All that is computed from the lines is the same. -/
structure SameViews (t t' : Transaction) : Prop where
  accounts : t'.accounts = t.accounts
  touches : t'.touches = t.touches
  nets : t'.nets = t.nets
  total : t'.total = t.total
  balances : ∀ a, balanceOf a (t'.lines.map Line.entry) = balanceOf a (t.lines.map Line.entry)

theorem sameViews_of_perm {t t' : Transaction} (h : t.lines.Perm t'.lines) : t.SameViews t' := by
  have haccounts : t'.accounts = t.accounts := (Line.accounts_perm h).symm
  have hnets := sameNets_of_perm h
  refine ⟨haccounts, funext fun a => (hnets a).1, ?_, (total_perm (h.map _)).symm, fun a => ?_⟩
  · rw [nets, nets, Line.nets_eq, Line.nets_eq, ← accounts, ← accounts, haccounts]
    exact List.map_congr_left fun a _ => congrArg (Prod.mk a) (hnets a).2
  · rw [Line.balanceOf_entries, Line.balanceOf_entries]
    exact (hnets a).2

end Transaction

theorem Desk.reversalOf_iff {t r : Transaction} : reversalOf t = .ok r ↔ t.Reverses r := by
  rw [← Transaction.reversed_iff, reversalOf]
  split
  · rename_i hreversed
    rw [hreversed, Except.ok.injEq, Except.ok.injEq]
  · rename_i hreversed
    rw [hreversed]
    exact iff_of_false (fun h => by cases h) (fun h => by cases h)

/-- A transaction can be taken back unless a line has the least amount. -/
theorem Desk.exists_reversal_iff {t : Transaction} :
    (∃ r, reversalOf t = .ok r) ↔ ∀ l ∈ t.lines, l.amount ≠ .bottom := by
  simp only [reversalOf_iff]
  rcases Transaction.reversedLines_cases t.lines with ⟨⟨rs, hrs, _⟩, hall⟩ | ⟨l, hl, hfind⟩
  · exact iff_of_true ⟨{ t with lines := rs }, rfl, rfl, Transaction.reversedLines_iff.mp hrs⟩ hall
  · refine iff_of_false ?_ fun hall => ?_
    · rintro ⟨r, hr⟩
      rw [Transaction.reversedLines_iff.mpr hr.lines] at hl
      cases hl
    · exact hall l (List.mem_of_find?_eq_some hfind) (of_decide_eq_true (List.find?_some hfind :))

/--
**The views of a transaction agree**, whatever its lines. It can be taken back unless a line has the least
amount; then everything is the opposite on the same accounts, and taking back once more gives the
transaction.
-/
theorem transaction_views_agree (t : Transaction) :
    (t.nets.map Prod.fst = t.accounts ∧ (t.accounts.Pairwise fun a b => a.text < b.text) ∧
        ∀ a, a ∈ t.accounts ↔ t.touches a = true) ∧
      (∀ e ∈ t.nets, e.2 = balanceOf e.1 (t.lines.map Line.entry)) ∧
      (t.nets.map Prod.snd).sum = t.total ∧
      (∀ t', t.lines.Perm t'.lines → t.SameViews t') ∧
      ((∃ r, Desk.reversalOf t = .ok r) ↔ ∀ l ∈ t.lines, l.amount ≠ .bottom) ∧
      ∀ r, Desk.reversalOf t = .ok r → t.Reverses r ∧ t.Mirrors r ∧ Desk.reversalOf r = .ok t := by
  have hnets : t.nets = t.accounts.map fun a => (a, t.net a) := Line.nets_eq t.lines
  refine ⟨⟨?_, t.accounts_sorted, fun a => Transaction.mem_accounts⟩, ?_, ?_,
    fun t' => Transaction.sameViews_of_perm, Desk.exists_reversal_iff, ?_⟩
  · rw [hnets, List.map_map]
    exact List.map_id _
  · rw [hnets, List.forall_mem_map]
    exact fun a _ => (Line.balanceOf_entries t.lines a).symm
  · rw [hnets, List.map_map]
    exact t.sum_nets
  · intro r hr
    have hreverses := Desk.reversalOf_iff.mp hr
    exact ⟨hreverses, hreverses.mirrors, Desk.reversalOf_iff.mpr hreverses.symm⟩

theorem transaction_views_agree_specimen :
    Specimen.detour.SameViews { Specimen.detour with lines := Specimen.detour.lines.reverse } ∧
      ∃ r, Desk.reversalOf Specimen.detour = .ok r ∧ Specimen.detour.Mirrors r ∧
        Desk.reversalOf r = .ok Specimen.detour := by
  obtain ⟨_, _, _, hviews, hexists, hreversal⟩ := transaction_views_agree Specimen.detour
  obtain ⟨r, hr⟩ := hexists.mpr (by decide)
  obtain ⟨_, hmirrors, hagain⟩ := hreversal r hr
  exact ⟨hviews _ (List.reverse_perm _).symm, r, hr, hmirrors, hagain⟩

/-- An account with several lines has one net, at its place among the accounts. -/
example : Specimen.detour.nets = [(⟨"a"⟩, -5), (⟨"b"⟩, 5)] := by decide

end DoubleEntry
