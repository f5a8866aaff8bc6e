import CatalogSearch.Explanation.Membership
import CatalogSearch.Proofs.Codec.Queries
import CatalogSearch.Request.Options

/-!
# Values with a form of their own

Dates, groups and options are also written and decoded by themselves, outside a query. Each of them
is decoded from its written form.
-/

namespace CatalogSearch

/-- A word is decoded from the number that it is. -/
theorem Decode.signed64_ofInt64 (value : Int64) :
    signed64 (.number (.ofInt64 value)) = .ok value := by
  have bounded := Int64.toInt_lt value
  rw [Number.ofInt64, signed64, if_pos (by omega), Int64.ofInt_toInt]

/-- A word of 32 bits is decoded from the number that it is. -/
theorem Decode.unsigned32_ofUInt32 (value : UInt32) :
    unsigned32 (.number (.ofUInt32 value)) = .ok value := by
  rw [unsigned32, Number.ofUInt32, natural_integer value.toNat_lt]
  exact congrArg Except.ok UInt32.ofNat_toNat

section Decoding

open Record (reads_done reads_fieldOr reads_optional lookup_written)

/-- A date range is decoded from its written form, whose type is left aside. -/
theorem DateRange.decode_toJson (range : DateRange) : decode range.toJson = .ok range := by
  have distinct : ([("type", Json.string "date-range"), ("from", .number (.ofInt64 range.earliest)),
      ("to", .number (.ofInt64 range.latest))].map Prod.fst).Nodup := by
    simp
  refine Record.Reads.decode_eq ((reads_done.andThen ?_).andThen ?_) "DateRange" nofun
  · exact reads_fieldOr distinct rfl (Decode.signed64_ofInt64 range.earliest) none
  · exact reads_fieldOr distinct rfl (Decode.signed64_ofInt64 range.latest) none

theorem TimeUnit.decode_toJson (unit : TimeUnit) : decode unit.toJson = .ok unit := by
  cases unit <;> rfl

/-- A relative date is decoded from its written form, whose type is left aside. -/
theorem RelativeDate.decode_toJson (relative : RelativeDate) :
    decode relative.toJson = .ok relative := by
  have distinct : ([("type", Json.string "relative-date"), ("unit", relative.unit.toJson),
      ("num", .number (.ofInt64 relative.count))].map Prod.fst).Nodup := by
    simp
  refine Record.Reads.decode_eq ((reads_done.andThen ?_).andThen ?_) "RelativeDate" nofun
  · exact reads_fieldOr distinct rfl relative.unit.decode_toJson none
  · exact reads_fieldOr distinct rfl (Decode.signed64_ofInt64 relative.count) none

/-- A group is decoded from its written form. -/
theorem GroupReference.decode_toJson (group : GroupReference) :
    decode group.toJson = .ok group := by
  have distinct : ([("id", Json.string group.id), ("title", .string group.title)].map
      Prod.fst).Nodup := by
    simp
  refine Record.Reads.decode_eq ((reads_done.andThen ?_).andThen ?_) "GroupRef" nofun
  · exact reads_fieldOr distinct rfl (Decode.string_string group.id) none
  · exact reads_fieldOr distinct rfl (Decode.string_string group.title) none

/-- The groups of an item are decoded from their written form. -/
theorem ItemGroups.decode_toJson (groups : ItemGroups) : decode groups.toJson = .ok groups := by
  have distinct : ([("admin", Json.array (groups.admin.map GroupReference.toJson)),
      ("member", .array (groups.member.map GroupReference.toJson)),
      ("other", .array (groups.other.map GroupReference.toJson))].map Prod.fst).Nodup := by
    simp
  have listed (references : List GroupReference) :
      Decode.list GroupReference.decode (.array (references.map GroupReference.toJson)) =
        .ok references :=
    Decode.list_map fun reference _ => reference.decode_toJson
  refine Record.Reads.decode_eq (((reads_done.andThen ?_).andThen ?_).andThen ?_)
    "ItemGroups" nofun
  · exact reads_fieldOr distinct rfl (listed groups.admin) (some [])
  · exact reads_fieldOr distinct rfl (listed groups.member) (some [])
  · exact reads_fieldOr distinct rfl (listed groups.other) (some [])

theorem SortOrder.decode_toJson (order : SortOrder) : decode order.toJson = .ok order := by
  cases order <;> rfl

namespace RequestOptions

variable (options : RequestOptions)

/-- Every option is written at most once. -/
theorem nodup_keys_members : (options.members.map Prod.fst).Nodup := by
  obtain ⟨limit, start, sortField, sortOrder⟩ := options
  cases limit <;> cases start <;> cases sortField <;> cases sortOrder <;> simp [members]

/-- Every option that is written is found under its own name. -/
theorem lookup_members :
    options.members.lookup "num" = options.limit.map (fun limit => .number (.ofUInt32 limit)) ∧
      options.members.lookup "start" =
        options.start.map (fun start => .number (.ofUInt32 start)) ∧
      options.members.lookup "sortField" = options.sortField.map Json.string ∧
      options.members.lookup "sortOrder" = options.sortOrder.map SortOrder.toJson := by
  simp [members, List.lookup_append, lookup_written]

/-- Options are decoded from the members that are written of them. -/
theorem decode_toJson : decode options.toJson = .ok options := by
  have distinct := options.nodup_keys_members
  obtain ⟨limit, start, sortField, sortOrder⟩ := options.lookup_members
  have numbered (value : UInt32) : Decode.optional Decode.unsigned32 (.number (.ofUInt32 value)) =
      .ok (some value) :=
    Decode.optional_of_ok nofun (Decode.unsigned32_ofUInt32 value)
  refine Record.Reads.decode_eq ((((reads_done.andThen ?_).andThen ?_).andThen ?_).andThen ?_)
    "SearchOptions" nofun
  · exact reads_optional _ distinct limit fun value _ => numbered value
  · exact reads_optional _ distinct start fun value _ => numbered value
  · exact reads_optional Json.string distinct sortField fun field _ =>
      Decode.optional_of_ok nofun (Decode.string_string field)
  · exact reads_optional SortOrder.toJson distinct sortOrder fun order _ =>
      Decode.optional_of_ok nofun order.decode_toJson

end RequestOptions

end Decoding

end CatalogSearch
