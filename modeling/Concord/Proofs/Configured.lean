import Concord.Configuration
import Concord.Proofs.Attribution
import Concord.Proofs.Fallible
import Concord.Split

/-!
# Sets that can be configured

However a set of implementations comes about, by default, from two tags, from a configuration or by
another choice of baseline, no method belongs to both of its implementations; and two tags are
refused only if some method would belong to both. A configuration is checked after its absent
settings have been filled in, so one that names a single implementation is judged by its prefix
beside the default prefix of the other one.
-/

namespace Concord

/-- The sets of implementations that can come about. -/
inductive ImplementationSet.Made : ImplementationSet → Prop
  /-- The default set. -/
  | default : Made .default
  /-- A set of two tags. -/
  | new {a b : Tag} {baseline : Side} {set : ImplementationSet}
      (made : ImplementationSet.new a b baseline = .ok set) : Made set
  /-- The set that a configuration describes. -/
  | configured {c : Configuration} {set : ImplementationSet} (made : c.toSet = .ok set) : Made set
  /-- A set with another baseline. -/
  | withBaseline {set : ImplementationSet} (made : Made set) (baseline : Side) :
      Made (set.withBaseline baseline)

/-- Two tags make a set exactly when no method belongs to both. -/
theorem exists_new_iff_forall_not_claimed {a b : Tag} {baseline : Side} :
    (∃ set, ImplementationSet.new a b baseline = .ok set) ↔
      ∀ method, ¬ (a.claims method = true ∧ b.claims method = true) := by
  rw [ImplementationSet.exists_new_iff, ← Bool.not_eq_true, Tag.overlaps_iff_exists_claimed,
    not_exists]

/-- Two tags are refused exactly when one prefix begins with the other. -/
theorem exists_error_new_iff {a b : Tag} {baseline : Side} :
    (∃ e, ImplementationSet.new a b baseline = .error e) ↔
      a.methodPrefix.toList <+: b.methodPrefix.toList ∨
        b.methodPrefix.toList <+: a.methodPrefix.toList := by
  rw [exists_error_iff, ImplementationSet.exists_new_iff, Bool.not_eq_false, Tag.overlaps,
    Bool.or_eq_true, List.isPrefixOf_iff_prefix, List.isPrefixOf_iff_prefix]

/-- No method belongs to both implementations of a set, however the set came about: what is built
from two tags was checked, and another baseline keeps the tags. -/
theorem ImplementationSet.Made.not_claimed {set : ImplementationSet} (made : set.Made)
    (method : String) : ¬ (set.a.claims method = true ∧ set.b.claims method = true) := by
  induction made with
  | default => exact ImplementationSet.default.not_claimed_by_both method
  | @new a b baseline set made =>
    obtain ⟨rfl, rfl, rfl⟩ := new_eq_ok_iff.mp made
    exact exists_new_iff_forall_not_claimed.mp ⟨set, made⟩ method
  | @configured c set made =>
    obtain ⟨first, second, -⟩ := new_eq_ok_iff.mp made
    rw [first, second]
    exact exists_new_iff_forall_not_claimed.mp ⟨set, made⟩ method
  | withBaseline _ _ ih => exact ih

/-- No result belongs to both implementations. -/
theorem ImplementationSet.Made.not_mem_resultsOf_other {set : ImplementationSet} (made : set.Made)
    (side : Side) {results : List TaggedResult} {result : TaggedResult}
    (own : result ∈ resultsOf (set.tag side) results) :
    result ∉ resultsOf (set.tag side.other) results := by
  intro other
  have first := (List.mem_filter.mp own).2
  have second := (List.mem_filter.mp other).2
  cases side with
  | a => exact made.not_claimed result.method ⟨first, second⟩
  | b => exact made.not_claimed result.method ⟨second, first⟩

/-- The set that a text configures is one that can come about. -/
theorem ImplementationSet.made_of_parse {text : String} {set : ImplementationSet}
    (parsed : Configuration.parse text = .ok set) : set.Made := by
  obtain ⟨c, -, checked⟩ := bind_eq_ok.mp parsed
  exact .configured (mapError_eq_ok.mp checked)

/-- Attribution is unambiguous: two tags make a set exactly when no method belongs to both, and a
configuration does exactly when this holds of its tags, with the default ones for those it leaves
out. So no method and no result belongs to both implementations of any set that can come about, and
a configuration with one tag is refused exactly when its prefix and the default prefix of the other
implementation begin with each other. -/
theorem attribution_is_unambiguous :
    (∀ (a b : Tag) (baseline : Side), (∃ set, ImplementationSet.new a b baseline = .ok set) ↔
      ∀ method, ¬ (a.claims method = true ∧ b.claims method = true)) ∧
    (∀ (a b : Option Tag) (baseline : Option Side),
      (∃ set, (Configuration.mk a b baseline).toSet = .ok set) ↔
        ∀ method, ¬ ((a.getD ⟨"Rust", "Rust_"⟩).claims method = true ∧
          (b.getD ⟨"CPP", "CPP_"⟩).claims method = true)) ∧
    (∀ (text : String) (set : ImplementationSet),
      Configuration.parse text = .ok set → set.Made) ∧
    (∀ set : ImplementationSet, set.Made →
      (∀ method, ¬ (set.a.claims method = true ∧ set.b.claims method = true)) ∧
      ∀ (results : List TaggedResult) (side : Side), ∀ result ∈ resultsOf (set.tag side) results,
        result ∉ resultsOf (set.tag side.other) results) ∧
    ∀ (given : Tag) (baseline : Option Side),
      ((∃ e, (Configuration.mk (some given) none baseline).toSet = .error e) ↔
        given.methodPrefix.toList <+: "CPP_".toList ∨
          "CPP_".toList <+: given.methodPrefix.toList) ∧
      ((∃ e, (Configuration.mk none (some given) baseline).toSet = .error e) ↔
        "Rust_".toList <+: given.methodPrefix.toList ∨
          given.methodPrefix.toList <+: "Rust_".toList) :=
  ⟨fun _ _ _ => exists_new_iff_forall_not_claimed,
    fun _ _ _ => exists_new_iff_forall_not_claimed,
    fun _ _ parsed => ImplementationSet.made_of_parse parsed,
    fun _ made => ⟨made.not_claimed, fun _ side _ own => made.not_mem_resultsOf_other side own⟩,
    fun _ _ => ⟨exists_error_new_iff, exists_error_new_iff⟩⟩

/-- A configuration may name the first implementation alone, with the prefix `ML_`; but not with the
prefix `CPP`, with which the methods of the second one begin by default. -/
theorem attribution_is_unambiguous_one_tag :
    (∃ set, (Configuration.mk (some ⟨"Ocaml", "ML_"⟩) none (some .a)).toSet = .ok set ∧
      set.Made ∧ ∀ method, ¬ (set.a.claims method = true ∧ set.b.claims method = true)) ∧
    ∃ e, (Configuration.mk (some ⟨"Clang", "CPP"⟩) none none).toSet = .error e := by
  let partly : Configuration := ⟨some ⟨"Ocaml", "ML_"⟩, none, some .a⟩
  let set : ImplementationSet := ⟨⟨"Ocaml", "ML_"⟩, ImplementationSet.default.b, .a, by decide⟩
  have checked : partly.toSet = .ok set :=
    ImplementationSet.new_eq_ok_iff.mpr ⟨rfl, rfl, rfl⟩
  obtain ⟨-, -, -, unambiguous, refused⟩ := attribution_is_unambiguous
  constructor
  · exact ⟨set, checked, .configured checked, (unambiguous set (.configured checked)).1⟩
  · exact (refused ⟨"Clang", "CPP"⟩ none).1.mpr (.inl (by decide))

end Concord
