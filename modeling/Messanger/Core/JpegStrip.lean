import Mathlib.Data.List.Basic
import Messanger.Core.Jpeg

/-!
What the stripper leaves of a file.  It writes the items that are kept of those it reads, and reads
of what it has written the same items again, unless one of them is taken for a part of a scan.
-/

namespace Messanger.Jpeg

variable {data rest payload entropy out : Bytes} {marker : UInt8} {fill fuel : Nat}
  {item : Item} {items : List Item}

section Parts

theorem head?_mark : (mark fill marker ++ rest).head? = some 0xFF := by
  simp [mark, List.replicate_succ]

theorem takeWhile_mark (apart : marker ≠ 0xFF) :
    (mark fill marker ++ rest).takeWhile (· == 0xFF) = List.replicate (fill + 1) 0xFF := by
  rw [mark, List.append_assoc, List.takeWhile_append_of_pos, List.singleton_append,
    List.takeWhile_cons_of_neg, List.append_nil]
  · simpa using apart
  · intro byte member
    simp [List.eq_of_mem_replicate member]

theorem dropWhile_mark (apart : marker ≠ 0xFF) :
    (mark fill marker ++ rest).dropWhile (· == 0xFF) = marker :: rest := by
  rw [mark, List.append_assoc, List.dropWhile_append_of_pos, List.singleton_append,
    List.dropWhile_cons_of_neg]
  · simpa using apart
  · intro byte member
    simp [List.eq_of_mem_replicate member]

theorem readPayload_bytes (short : payload.length + 2 < 65536) :
    readPayload (lengthField payload ++ payload ++ rest) = some (payload, rest) := by
  have high : (UInt8.ofNat ((payload.length + 2) / 256)).toNat = (payload.length + 2) / 256 := by
    rw [UInt8.toNat_ofNat']
    omega
  have low : (UInt8.ofNat ((payload.length + 2) % 256)).toNat = (payload.length + 2) % 256 := by
    rw [UInt8.toNat_ofNat']
    omega
  have whole : (payload.length + 2) / 256 * 256 + (payload.length + 2) % 256 =
      payload.length + 2 := by omega
  simp only [lengthField, List.cons_append, List.nil_append, readPayload, high, low, whole,
    List.length_append]
  rw [if_neg (by omega), Nat.add_sub_cancel, List.take_left, List.drop_left]

theorem lengthField_take {high low : UInt8}
    (enough : 2 ≤ high.toNat * 256 + low.toNat ∧ high.toNat * 256 + low.toNat ≤ rest.length + 2) :
    lengthField (rest.take (high.toNat * 256 + low.toNat - 2)) = [high, low] := by
  have bound := low.toNat_lt
  have length : (rest.take (high.toNat * 256 + low.toNat - 2)).length + 2 =
      high.toNat * 256 + low.toNat := by
    rw [List.length_take]
    omega
  have first : (high.toNat * 256 + low.toNat) / 256 = high.toNat := by omega
  have second : (high.toNat * 256 + low.toNat) % 256 = low.toNat := by omega
  rw [lengthField, length, first, second, UInt8.ofNat_toNat, UInt8.ofNat_toNat]

theorem keep_sos : keep sos payload = true := by
  simp only [keep, show sos ≠ app0 by decide, show sos ≠ app2 by decide,
    show sos ≠ app14 by decide, if_false]
  decide

theorem isPrefixOf_own {wanted : Bytes} (plain : 0xFF ∉ wanted) (next : rest.head? = some 0xFF) :
    wanted.isPrefixOf (payload ++ rest) = wanted.isPrefixOf payload := by
  induction wanted generalizing payload with
  | nil => rfl
  | cons first wanted ih =>
      rw [List.mem_cons, not_or] at plain
      cases payload with
      | nil =>
          obtain ⟨more, rfl⟩ := List.head?_eq_some_iff.mp next
          have differ : (first == 0xFF) = false := beq_false_of_ne (Ne.symm plain.1)
          simp [List.isPrefixOf, differ]
      | cons byte payload =>
          rw [List.cons_append, List.isPrefixOf, List.isPrefixOf, ih plain.2]

theorem keep_own (next : rest.head? = some 0xFF) :
    keep marker (payload ++ rest) = keep marker payload := by
  simp only [keep, isPrefixOf_own (show (0xFF : UInt8) ∉ jfif by decide) next,
    isPrefixOf_own (show (0xFF : UInt8) ∉ iccProfile by decide) next,
    isPrefixOf_own (show (0xFF : UInt8) ∉ adobe by decide) next]

end Parts

section Entropy

theorem isEntropy_append {more : Bytes} (first : isEntropy entropy = true)
    (second : isEntropy more = true) : isEntropy (entropy ++ more) = true := by
  fun_induction isEntropy entropy with
  | case1 => exact second
  | case2 byte =>
      have plain : byte ≠ 0xFF := by simpa using first
      cases more with
      | nil => simpa [isEntropy] using plain
      | cons following more => simp [isEntropy, plain, second]
  | case3 byte following rest plain ih =>
      have whole := ih first
      rw [List.cons_append] at whole
      simp only [List.cons_append, isEntropy, plain, ne_eq, not_false_eq_true, if_true, whole]
  | case4 byte following rest mark ih =>
      rw [Bool.and_eq_true] at first
      simp only [List.cons_append, isEntropy, mark, if_false, first.1, ih first.2, Bool.and_self]

def Stops (rest : Bytes) : Prop := ∃ following more, rest = 0xFF :: following :: more ∧
  stuffed following = false

theorem entropyEnd_append (coded : isEntropy entropy = true) (stops : Stops rest) :
    entropyEnd (entropy ++ rest) = some entropy.length := by
  obtain ⟨following, more, rfl, free⟩ := stops
  fun_induction isEntropy entropy with
  | case1 => simp [entropyEnd, free]
  | case2 byte =>
      have plain : byte ≠ 0xFF := by simpa using coded
      simp [entropyEnd, plain, free]
  | case3 byte next entropy plain ih =>
      have whole := ih coded
      rw [List.cons_append] at whole
      simp only [List.cons_append, entropyEnd, plain, ne_eq, not_false_eq_true, if_true, whole]
      rfl
  | case4 byte next entropy mark ih =>
      rw [Bool.and_eq_true] at coded
      simp only [List.cons_append, entropyEnd, mark, if_false, coded.1, if_true, ih coded.2]
      rfl

theorem isEntropy_take {scanEnd : Nat} (found : entropyEnd data = some scanEnd) :
    isEntropy (data.take scanEnd) = true := by
  fun_induction entropyEnd data generalizing scanEnd with
  | case1 => cases found
  | case2 => cases found
  | case3 byte following rest plain ih =>
      obtain ⟨count, before, rfl⟩ := Option.map_eq_some_iff.mp found
      have coded := ih before
      rw [List.take_succ_cons]
      cases taken : (following :: rest).take count with
      | nil => simpa [isEntropy] using plain
      | cons first more =>
          rw [taken] at coded
          simp only [isEntropy, plain, ne_eq, not_false_eq_true, if_true, coded]
  | case4 byte following rest mark inside ih =>
      obtain ⟨count, before, rfl⟩ := Option.map_eq_some_iff.mp found
      rw [List.take_succ_cons, List.take_succ_cons]
      simp only [isEntropy, mark, if_false, inside, ih before, Bool.and_self]
  | case5 byte following rest mark outside =>
      cases found
      rfl

end Entropy

section Writing

def written (items : List Item) : Bytes := ((items.filter Item.kept).map Item.bare).flatMap Item.bytes

theorem written_cons : written (item :: items) =
    (if item.kept then item.bare.bytes else []) ++ written items := by
  unfold written
  by_cases kept : item.kept
  · simp [kept]
  · simp [kept]

theorem bytes_stripped (file : File) :
    file.stripped.bytes = soi ++ written file.items ++ [0xFF, eoi] := by
  simp [File.bytes, File.stripped, written, mark]

theorem readFrom_head (found : readFrom fuel data = some items) : data.head? = some 0xFF := by
  cases fuel with
  | zero => cases found
  | succ fuel =>
      rw [readFrom] at found
      by_contra other
      rw [if_pos other] at found
      cases found

theorem stripFrom_eq : stripFrom fuel data out =
    (readFrom fuel data).map fun items => out ++ written items ++ [0xFF, eoi] := by
  induction fuel generalizing data out with
  | zero => rfl
  | succ fuel ih =>
      unfold stripFrom readFrom
      by_cases head : data.head? = some 0xFF
      · simp only [head, ne_eq, not_true, if_false]
        cases data.dropWhile (· == 0xFF) with
        | nil => rfl
        | cons marker rest =>
            by_cases last : marker = eoi
            · simp [last, written, eoi]
            by_cases lone : marker ∈ standalone
            · simp only [last, lone, if_true, if_false, ih, Option.map_map]
              congr 1
              funext items
              simp [written_cons, Item.kept, Item.bare, Item.bytes, mark]
            simp only [last, lone, if_false]
            match rest with
            | [] => rfl
            | [_] => rfl
            | high :: low :: payload =>
                by_cases wrong : high.toNat * 256 + low.toNat < 2 ∨
                    payload.length + 2 < high.toNat * 256 + low.toNat
                · simp only [readPayload, List.length_cons, wrong, if_true, Option.map_none]
                · have enough : 2 ≤ high.toNat * 256 + low.toNat ∧
                      high.toNat * 256 + low.toNat ≤ payload.length + 2 := by omega
                  have field := lengthField_take enough
                  obtain ⟨size, exact⟩ := Nat.exists_eq_add_of_le' enough.1
                  simp only [readPayload, List.length_cons, wrong, if_false]
                  rw [exact] at field ⊢
                  simp only [List.take_succ_cons, List.drop_succ_cons, Nat.add_sub_cancel] at field ⊢
                  by_cases scans : marker = sos
                  · subst scans
                    simp only [if_true, keep_sos]
                    cases entropyEnd (payload.drop size) with
                    | none => rfl
                    | some scanEnd =>
                        simp only [ih, Option.map_map]
                        congr 1
                        funext items
                        simp [written_cons, Item.kept, Item.bare, Item.bytes, mark, field]
                  · simp only [scans, if_false, ih, Option.map_map]
                    cases found : readFrom fuel (payload.drop size) with
                    | none => rfl
                    | some items =>
                        -- only a marker can follow, which no wanted payload begins with
                        have own : keep marker (payload.take size ++ payload.drop size) =
                            keep marker (payload.take size) := keep_own (readFrom_head found)
                        rw [List.take_append_drop] at own
                        simp only [Option.map_some, Function.comp_apply, own]
                        by_cases kept : keep marker (payload.take size)
                        · simp [written_cons, Item.kept, Item.bare, Item.bytes, mark, field, kept]
                        · simp [written_cons, Item.kept, kept]
      · simp [head]

theorem stripJpegMetadata_eq (data : Bytes) : stripJpegMetadata data =
    (read data).map fun items => soi ++ written items ++ [0xFF, eoi] := by
  unfold stripJpegMetadata read
  split
  · exact stripFrom_eq
  · rfl

end Writing

section Formed

theorem readPayload_short {payload : Bytes} (found : readPayload data = some (payload, rest)) :
    payload.length + 2 < 65536 := by
  match data with
  | [] => cases found
  | [_] => cases found
  | high :: low :: data =>
      simp only [readPayload] at found
      split at found
      · cases found
      · cases found
        have first := high.toNat_lt
        have second := low.toNat_lt
        rw [List.length_take]
        omega

theorem formed_read (found : readFrom fuel data = some items) : ∀ item ∈ items, item.Formed := by
  induction fuel generalizing data items with
  | zero => cases found
  | succ fuel ih =>
      rw [readFrom] at found
      split at found
      · cases found
      dsimp only at found
      split at found
      · cases found
      rename_i marker rest dropped
      split at found
      · cases found
        exact fun _ member => nomatch member
      rename_i last
      split at found
      · rename_i lone
        obtain ⟨items, left, rfl⟩ := Option.map_eq_some_iff.mp found
        exact List.forall_mem_cons.mpr ⟨lone, ih left⟩
      rename_i several
      split at found
      · cases found
      rename_i payload rest parsed
      have short := readPayload_short parsed
      split at found
      · split at found
        · cases found
        rename_i scanEnd ended
        obtain ⟨items, left, rfl⟩ := Option.map_eq_some_iff.mp found
        exact List.forall_mem_cons.mpr ⟨⟨short, isEntropy_take ended⟩, ih left⟩
      · rename_i other
        obtain ⟨items, left, rfl⟩ := Option.map_eq_some_iff.mp found
        have apart : marker ≠ 0xFF := by
          have first := List.head?_dropWhile_not (· == (0xFF : UInt8)) data
          rw [dropped] at first
          simpa using first
        exact List.forall_mem_cons.mpr ⟨⟨several, last, other, apart, short⟩, ih left⟩

theorem bare_bare : item.bare.bare = item.bare := by cases item <;> rfl

theorem kept_bare : item.bare.kept = item.kept := by cases item <;> rfl

theorem formed_bare (formed : item.Formed) : item.bare.Formed := by
  cases item with
  | lone fill marker => exact formed
  | segment fill marker payload => exact formed
  | scan fill payload entropy => exact formed

theorem written_stripped : written ((items.filter Item.kept).map Item.bare) = written items := by
  induction items with
  | nil => rfl
  | cons item items ih =>
      by_cases kept : item.kept
      · rw [List.filter_cons_of_pos kept, List.map_cons, written_cons, written_cons, kept_bare,
          if_pos kept, if_pos kept, bare_bare, ih]
      · rw [List.filter_cons_of_neg kept, written_cons, if_neg kept, ih]
        rfl

end Formed

section Rereading

theorem readFrom_eoi : readFrom (fuel + 1) (mark fill eoi ++ rest) = some [] := by
  have apart : eoi ≠ 0xFF := by decide
  simp only [readFrom, head?_mark, dropWhile_mark apart, ne_eq, not_true, if_false, if_true]

theorem readFrom_lone (lone : marker ∈ standalone) :
    readFrom (fuel + 1) (mark fill marker ++ rest) =
      (readFrom fuel rest).map (.lone fill marker :: ·) := by
  have apart : marker ≠ 0xFF := fun same => absurd (same ▸ lone) (by decide)
  have last : marker ≠ eoi := fun same => absurd (same ▸ lone) (by decide)
  simp only [readFrom, head?_mark, dropWhile_mark apart, takeWhile_mark apart, ne_eq, not_true,
    if_false, if_true, last, lone, List.length_replicate, Nat.add_sub_cancel]

theorem readFrom_segment (formed : (Item.segment fill marker payload).Formed) :
    readFrom (fuel + 1) (mark fill marker ++ lengthField payload ++ payload ++ rest) =
      (readFrom fuel rest).map (.segment fill marker payload :: ·) := by
  obtain ⟨several, last, other, apart, short⟩ := formed
  have parsed : readPayload (lengthField payload ++ payload ++ rest) = some (payload, rest) :=
    readPayload_bytes short
  have layout : mark fill marker ++ lengthField payload ++ payload ++ rest =
      mark fill marker ++ (lengthField payload ++ payload ++ rest) := by
    simp only [List.append_assoc]
  rw [layout]
  simp only [readFrom, head?_mark, dropWhile_mark apart, takeWhile_mark apart, ne_eq, not_true,
    if_false, last, several, other, parsed, List.length_replicate, Nat.add_sub_cancel]

theorem readFrom_scan {scanEnd : Nat} (short : payload.length + 2 < 65536)
    (ended : entropyEnd rest = some scanEnd) :
    readFrom (fuel + 1) (mark fill sos ++ lengthField payload ++ payload ++ rest) =
      (readFrom fuel (rest.drop scanEnd)).map (.scan fill payload (rest.take scanEnd) :: ·) := by
  have apart : sos ≠ 0xFF := by decide
  have last : sos ≠ eoi := by decide
  have several : sos ∉ standalone := by decide
  have parsed : readPayload (lengthField payload ++ payload ++ rest) = some (payload, rest) :=
    readPayload_bytes short
  have layout : mark fill sos ++ lengthField payload ++ payload ++ rest =
      mark fill sos ++ (lengthField payload ++ payload ++ rest) := by
    simp only [List.append_assoc]
  rw [layout]
  simp only [readFrom, head?_mark, dropWhile_mark apart, takeWhile_mark apart, ne_eq, not_true,
    if_false, if_true, last, several, parsed, ended, List.length_replicate, Nat.add_sub_cancel]

def Item.joins : Item → Bool
  | .lone fill marker => fill == 0 && stuffed marker
  | .segment fill marker _ => fill == 0 && marker == 0x00
  | .scan _ _ _ => false

theorem not_stuffed (several : marker ∉ standalone) (mark : marker ≠ 0x00) :
    stuffed marker = false := by
  simp only [standalone, List.mem_cons, List.not_mem_nil, or_false, not_or, ne_eq,
    ← UInt8.toNat_inj] at several mark
  simp only [stuffed, Bool.or_eq_false_iff, Bool.and_eq_false_iff, beq_eq_false_iff_ne, ne_eq,
    decide_eq_false_iff_not, UInt8.le_iff_toNat_le, ← UInt8.toNat_inj]
  simp only [UInt8.toNat_ofNat] at several mark ⊢
  omega

theorem stops_mark (ends : fill = 0 → stuffed marker = false) : Stops (mark fill marker ++ rest) := by
  cases fill with
  | zero => exact ⟨marker, rest, rfl, ends rfl⟩
  | succ fill =>
      exact ⟨0xFF, List.replicate fill 0xFF ++ marker :: rest, by simp [mark, List.replicate_succ],
        by decide⟩

theorem stops_item (formed : item.Formed) (apart : item.joins = false) :
    Stops (item.bytes ++ rest) := by
  cases item with
  | lone fill marker =>
      refine stops_mark fun none => ?_
      subst none
      simpa [Item.joins] using apart
  | segment fill marker payload =>
      rw [Item.bytes, List.append_assoc, List.append_assoc]
      refine stops_mark fun none => not_stuffed formed.1 ?_
      subst none
      simpa [Item.joins] using apart
  | scan fill payload entropy =>
      rw [Item.bytes, List.append_assoc, List.append_assoc, List.append_assoc]
      exact stops_mark fun _ => by decide

theorem unbroken_apart {behind : Bool} (whole : unbroken behind items = true) :
    unbroken false items = true := by
  induction items generalizing behind with
  | nil => rfl
  | cons item items ih =>
      cases item with
      | lone fill marker => exact ih whole
      | segment fill marker payload =>
          simp only [unbroken, Bool.and_eq_true] at whole
          simp only [unbroken, Bool.false_and, Bool.not_false, Bool.true_or, Bool.true_and]
          exact ih whole.2
      | scan fill payload entropy => exact whole

theorem unbroken_joins (joins : item.joins = true) (whole : unbroken true (item :: items) = true) :
    isEntropy item.bytes = true ∧ unbroken true items = true ∧ item.kept = true ∧
      item.bare = item := by
  cases item with
  | lone fill marker =>
      simp only [Item.joins, Bool.and_eq_true, beq_iff_eq] at joins
      obtain ⟨rfl, inside⟩ := joins
      simp only [unbroken, Bool.true_and, beq_self_eq_true, inside] at whole
      exact ⟨by simp [Item.bytes, mark, isEntropy, inside], whole, rfl, rfl⟩
  | segment fill marker payload =>
      simp only [Item.joins, Bool.and_eq_true, beq_iff_eq] at joins
      obtain ⟨rfl, rfl⟩ := joins
      simp only [unbroken, Bool.true_and, beq_self_eq_true, Bool.not_true, Bool.false_or,
        Bool.and_eq_true] at whole
      have first : isEntropy [0xFF, 0x00] = true := by decide
      have coded := isEntropy_append first whole.1
      refine ⟨?_, whole.2, by rfl, rfl⟩
      simpa [Item.bytes, mark] using coded
  | scan fill payload entropy => cases joins

structure Rereads (items again : List Item) : Prop where
  written : written again = written items
  kept : (∀ item ∈ items, item.kept = true) → ∀ item ∈ again, item.kept = true

theorem Rereads.cons {again : List Item} (rereads : Rereads items again) :
    Rereads (item :: items) (item :: again) := by
  refine ⟨?_, fun kept => ?_⟩
  · rw [written_cons, written_cons, rereads.written]
  · rw [List.forall_mem_cons] at kept ⊢
    exact ⟨kept.1, rereads.kept kept.2⟩

theorem reread {trailing : Bytes} (formed : ∀ item ∈ items, item.Formed) :
    (unbroken false items = true → ∀ fuel,
      (items.flatMap Item.bytes ++ (mark fill eoi ++ trailing)).length ≤ fuel →
        ∃ again, readFrom fuel (items.flatMap Item.bytes ++ (mark fill eoi ++ trailing)) =
          some again ∧ Rereads items again) ∧
    (unbroken true items = true → ∀ entropy, isEntropy entropy = true → ∀ fuel,
      (items.flatMap Item.bytes ++ (mark fill eoi ++ trailing)).length ≤ fuel →
        ∃ scan left again, entropy ++ (items.flatMap Item.bytes ++ (mark fill eoi ++ trailing)) =
            scan ++ left ∧ entropyEnd (scan ++ left) = some scan.length ∧
          readFrom fuel left = some again ∧ scan ++ written again = entropy ++ written items ∧
          ((∀ item ∈ items, item.kept = true) → ∀ item ∈ again, item.kept = true)) := by
  induction items with
  | nil =>
      have ending (fuel : Nat) (enough : (mark fill eoi ++ trailing).length ≤ fuel) :
          readFrom fuel (mark fill eoi ++ trailing) = some [] := by
        cases fuel with
        | zero => simp [mark] at enough
        | succ fuel => exact readFrom_eoi
      constructor
      · exact fun _ fuel enough => ⟨[], ending fuel enough, rfl, fun kept => kept⟩
      · intro _ entropy coded fuel enough
        have stops : Stops (mark fill eoi ++ trailing) := stops_mark fun _ => by decide
        exact ⟨entropy, _, [], rfl, entropyEnd_append coded stops, ending fuel enough, rfl,
          fun kept => kept⟩
  | cons item items ih =>
      rw [List.forall_mem_cons] at formed
      obtain ⟨alone, behind⟩ := ih formed.2
      have first : unbroken false (item :: items) = true → ∀ fuel,
          ((item :: items).flatMap Item.bytes ++ (mark fill eoi ++ trailing)).length ≤ fuel →
            ∃ again, readFrom fuel ((item :: items).flatMap Item.bytes ++
              (mark fill eoi ++ trailing)) = some again ∧ Rereads (item :: items) again := by
        intro whole fuel enough
        rw [List.flatMap_cons, List.append_assoc, List.length_append] at enough
        rw [List.flatMap_cons, List.append_assoc]
        have consumed : 0 < item.bytes.length := by
          refine List.length_pos_iff.mpr ?_
          cases item <;> simp [Item.bytes, mark, List.replicate_succ]
        have more : fuel ≠ 0 := by omega
        obtain ⟨fuel, rfl⟩ := Nat.exists_eq_add_one_of_ne_zero more
        cases item with
        | lone before marker =>
            simp only [unbroken, Bool.false_and] at whole
            obtain ⟨again, found, rereads⟩ := alone whole fuel (by omega)
            refine ⟨_, ?_, rereads.cons⟩
            rw [Item.bytes, readFrom_lone formed.1, found]
            rfl
        | segment before marker payload =>
            simp only [unbroken, Bool.false_and, Bool.not_false, Bool.true_or, Bool.true_and] at whole
            obtain ⟨again, found, rereads⟩ := alone whole fuel (by omega)
            refine ⟨_, ?_, rereads.cons⟩
            rw [Item.bytes, readFrom_segment formed.1, found]
            rfl
        | scan before payload entropy =>
            obtain ⟨short, coded⟩ := formed.1
            obtain ⟨scan, left, again, split, ended, found, same, kept⟩ :=
              behind whole entropy coded fuel (by omega)
            refine ⟨.scan before payload scan :: again, ?_, ?_, ?_⟩
            · have layout : (Item.scan before payload entropy).bytes ++
                  (items.flatMap Item.bytes ++ (mark fill eoi ++ trailing)) =
                    mark before sos ++ lengthField payload ++ payload ++ (scan ++ left) := by
                rw [← split]
                simp only [Item.bytes, List.append_assoc]
              rw [layout, readFrom_scan short ended, List.drop_left, List.take_left, found]
              rfl
            · have scans (coded : Bytes) (more : List Item) :
                  written (.scan before payload coded :: more) =
                    mark 0 sos ++ lengthField payload ++ payload ++ (coded ++ written more) := by
                rw [written_cons]
                simp [Item.kept, Item.bare, Item.bytes]
              rw [scans, scans, same]
            · intro all
              rw [List.forall_mem_cons] at all ⊢
              exact ⟨rfl, kept all.2⟩
      refine ⟨first, fun whole entropy coded fuel enough => ?_⟩
      by_cases joins : item.joins = true
      · obtain ⟨inside, rest, kept, bare⟩ := unbroken_joins joins whole
        rw [List.flatMap_cons, List.append_assoc, List.length_append] at enough
        obtain ⟨scan, left, again, split, ended, found, same, all⟩ :=
          behind rest (entropy ++ item.bytes) (isEntropy_append coded inside) fuel (by omega)
        refine ⟨scan, left, again, ?_, ended, found, ?_, fun every => all ?_⟩
        · rw [← split, List.flatMap_cons]
          simp only [List.append_assoc]
        · rw [same, written_cons, if_pos kept, bare, List.append_assoc]
        · exact (List.forall_mem_cons.mp every).2
      · obtain ⟨again, found, rereads⟩ := first (unbroken_apart whole) fuel enough
        refine ⟨entropy, _, again, rfl, ?_, found, by rw [rereads.written], rereads.kept⟩
        refine entropyEnd_append coded ?_
        rw [List.flatMap_cons, List.append_assoc]
        exact stops_item formed.1 (by simpa using joins)

theorem read_file {file : File} (formed : ∀ item ∈ file.items, item.Formed)
    (whole : unbroken false file.items = true) :
    ∃ again, read file.bytes = some again ∧ Rereads file.items again := by
  have layout : file.bytes =
      soi ++ (file.items.flatMap Item.bytes ++ (mark file.fill eoi ++ file.trailing)) := by
    simp only [File.bytes, List.append_assoc]
  have prefixed : soi.isPrefixOf file.bytes = true := by
    rw [layout, List.isPrefixOf_iff_prefix]
    exact List.prefix_append _ _
  have rest : file.bytes.drop 2 =
      file.items.flatMap Item.bytes ++ (mark file.fill eoi ++ file.trailing) := by
    rw [layout]
    rfl
  have enough : (file.bytes.drop 2).length ≤ file.bytes.length := by
    rw [List.length_drop]
    omega
  rw [rest] at enough
  rw [read, if_pos prefixed, rest]
  exact (reread formed).1 whole _ enough

/-- A stripped file is stripped already, and what it is read as has nothing that is to go, unless
a segment marked `0x00` behind a scan carries a marker into it. -/
theorem strip_settled (data out : Bytes)
    (safe : ∀ items, read data = some items →
      unbroken false ((items.filter Item.kept).map Item.bare) = true)
    (stripped : stripJpegMetadata data = some out) :
    stripJpegMetadata out = some out ∧
      ∃ items, read out = some items ∧ ∀ item ∈ items, item.kept = true := by
  rw [stripJpegMetadata_eq] at stripped
  obtain ⟨items, found, rfl⟩ := Option.map_eq_some_iff.mp stripped
  have formed : ∀ item ∈ items, item.Formed := by
    unfold read at found
    split at found
    · exact formed_read found
    · cases found
  have left : ∀ item ∈ (items.filter Item.kept).map Item.bare, item.Formed ∧ item.kept = true := by
    intro item member
    obtain ⟨original, kept, rfl⟩ := List.mem_map.mp member
    obtain ⟨inside, stays⟩ := List.mem_filter.mp kept
    exact ⟨formed_bare (formed original inside), kept_bare.trans stays⟩
  have formedLeft : ∀ item ∈ (File.stripped ⟨items, 0, []⟩).items, item.Formed :=
    fun item member => (left item member).1
  obtain ⟨again, reread, rereads⟩ := read_file formedLeft (safe items found)
  rw [bytes_stripped] at reread
  refine ⟨?_, again, reread, rereads.kept fun item member => (left item member).2⟩
  have same : written (File.stripped ⟨items, 0, []⟩).items = written items := written_stripped
  rw [stripJpegMetadata_eq, reread, Option.map_some, rereads.written, same]

def hiddenPosition : Bytes :=
  [0xFF, 0xD8, 0xFF, 0xDA, 0, 2, 0xFF, 0xFF, 0x00, 0, 8, 0xFF, 0xE1, 0, 4, 0x47, 0x50, 0xFF, 0xD9]

def taggedPhoto : Bytes :=
  [0xFF, 0xD8, 0xFF, 0xFF, 0xE1, 0, 4, 0x47, 0x50, 0xFF, 0xDA, 0, 2, 1, 0xFF, 0x00, 2, 0xFF, 0xD0, 3,
    0xFF, 0xD9, 7]

theorem strip_settled_photo : ∃ out, stripJpegMetadata taggedPhoto = some out ∧
    stripJpegMetadata out = some out := by
  have stripped : stripJpegMetadata taggedPhoto =
      some [0xFF, 0xD8, 0xFF, 0xDA, 0, 2, 1, 0xFF, 0x00, 2, 0xFF, 0xD0, 3, 0xFF, 0xD9] := by decide
  refine ⟨_, stripped, (strip_settled taggedPhoto _ ?_ stripped).1⟩
  have found : read taggedPhoto = some [.segment 1 0xE1 [0x47, 0x50],
      .scan 0 [] [1, 0xFF, 0x00, 2, 0xFF, 0xD0, 3]] := by decide
  intro items same
  rw [found] at same
  cases same
  decide

theorem position_left : ¬∀ data out : Bytes, stripJpegMetadata data = some out →
    stripJpegMetadata out = some out ∧
      ∃ items, read out = some items ∧ ∀ item ∈ items, item.kept = true := by
  intro always
  have stripped : stripJpegMetadata hiddenPosition = some [0xFF, 0xD8, 0xFF, 0xDA, 0, 2, 0xFF, 0x00,
      0, 8, 0xFF, 0xE1, 0, 4, 0x47, 0x50, 0xFF, 0xD9] := by decide
  obtain ⟨_, items, found, kept⟩ := always hiddenPosition _ stripped
  have shown : read [0xFF, 0xD8, 0xFF, 0xDA, 0, 2, 0xFF, 0x00, 0, 8, 0xFF, 0xE1, 0, 4, 0x47, 0x50,
      0xFF, 0xD9] = some [.scan 0 [] [0xFF, 0x00, 0, 8], .segment 0 0xE1 [0x47, 0x50]] := by decide
  rw [shown] at found
  cases found
  have metadata := kept (.segment 0 0xE1 [0x47, 0x50]) (by decide)
  revert metadata
  decide

theorem unbroken_of_marked {behind : Bool} (marked : ∀ item ∈ items, item.marker ≠ 0x00) :
    unbroken behind items = true := by
  induction items generalizing behind with
  | nil => rfl
  | cons item items ih =>
      rw [List.forall_mem_cons] at marked
      cases item with
      | lone fill marker => exact ih marked.2
      | segment fill marker payload =>
          have other : (marker == 0x00) = false := beq_false_of_ne marked.1
          simp only [unbroken, other, Bool.and_false, Bool.not_false, Bool.true_or, Bool.true_and]
          exact ih marked.2
      | scan fill payload entropy => exact ih marked.2

/-- Of a well-formed file all is left but the metadata, the fill bytes and what is behind its end. -/
theorem strip_file (file : File)
    (formed : ∀ item ∈ file.items, item.Formed ∧ item.marker ≠ 0x00) :
    stripJpegMetadata file.bytes = some file.stripped.bytes := by
  obtain ⟨again, found, rereads⟩ := read_file (fun item member => (formed item member).1)
    (unbroken_of_marked fun item member => (formed item member).2)
  rw [stripJpegMetadata_eq, found, Option.map_some, rereads.written, bytes_stripped]

def taggedFile : File where
  items := [.segment 1 0xE1 [0x47, 0x50], .scan 0 [] [1, 0xFF, 0x00, 2, 0xFF, 0xD0, 3]]
  trailing := [7]

theorem strip_file_tagged : stripJpegMetadata taggedFile.bytes = some taggedFile.stripped.bytes := by
  refine strip_file taggedFile (List.forall_mem_cons.mpr ⟨⟨?_, by decide⟩,
    List.forall_mem_singleton.mpr ⟨?_, by decide⟩⟩)
  · exact ⟨by decide, by decide, by decide, by decide, by decide⟩
  · exact ⟨by decide, by decide⟩

end Rereading

end Messanger.Jpeg
