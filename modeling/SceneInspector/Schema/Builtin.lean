import SceneInspector.Schema.Registry

namespace SceneInspector.Schema

def builtinClasses : List (String × Class) := [
  ("REveElement", ⟨[], [.bool "RnrSelf", .bool "RnrChildren", .mainColour "Color" true,
    .action "Destroy" "Destroy"]⟩),
  ("REveElementList", ⟨["REveElement"], []⟩),
  ("REveSelection", ⟨[], [.colour "VisibleEdgeColor", .colour "HiddenEdgeColor"]⟩),
  ("REveGeoShape", ⟨["REveElement"], []⟩),
  ("REveCompound", ⟨["REveElement"], []⟩),
  ("REvePointSet", ⟨["REveElement"], [.number "MarkerSize"]⟩),
  ("REveJetCone", ⟨[], [.bool "RnrSelf", .mainColour "ConeColor" true, .number "NDiv"]⟩),
  ("REveDataCollection", ⟨[], [(Entry.string "FilterExpr").inQuotes,
    (Entry.bool "CollectionVisible").readFrom "fRnrSelf", .mainColour "CollectionColor" false]⟩),
  ("REveDataItem", ⟨[], [.mainColour "ItemColor" false,
    (Entry.bool "ItemRnrSelf").readFrom "fRnrSelf", .bool "Filtered"]⟩),
  ("REveTrack", ⟨[], [.bool "RnrSelf", .mainColour "LineColor" true, .number "LineWidth",
    .action "Destroy" "Destroy"]⟩)]

def Registry.builtin : Registry := ⟨Dictionary.ofList builtinClasses⟩

end SceneInspector.Schema
