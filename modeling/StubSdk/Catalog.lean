import StubSdk.Component
import StubSdk.Operation

/-!
The method catalog: each component's methods in the order of its code table, with the detail
keys their arguments are recorded under and the kind of answer they give. Two engine methods
open export streams instead of answering.
-/

namespace StubSdk

/-- The kind of value an argument holds. -/
inductive ParamKind where
  | text
  | int64
  | handle
  deriving DecidableEq, Repr

/-- One argument of a method. -/
structure Param where
  /-- The argument's name, such as `data_source_code`. -/
  name : String
  /-- The detail key it is recorded under, if it is recorded. -/
  key : Option String
  kind : ParamKind
  deriving DecidableEq, Repr

namespace Param

/-- A text argument recorded under `key`. -/
def text (name key : String) : Param := ⟨name, some key, .text⟩

/-- An integer argument recorded under `key`. -/
def int64 (name key : String) : Param := ⟨name, some key, .int64⟩

/-- An export handle argument recorded under `key`. -/
def handle (name key : String) : Param := ⟨name, some key, .handle⟩

/-- A document argument, which is never recorded. -/
def document (name : String) : Param := ⟨name, none, .text⟩

end Param

/-- What a method answers. -/
inductive AnswerKind where
  /-- Nothing. -/
  | nothing
  /-- A canned text. -/
  | text
  /-- A canned integer. -/
  | int64
  /-- A canned export handle. -/
  | handle
  /-- A new config service (config managers only). -/
  | config
  /-- An export stream of fragments (engines only). -/
  | fragments
  deriving DecidableEq, Repr

/-- One method of a component. -/
structure Method where
  /-- The method's name, such as `add_record`. -/
  name : String
  /-- The name of its operation, such as `AddRecord`. -/
  operation : String
  params : List Param
  answer : AnswerKind
  /-- Whether its event carries its answer. -/
  returns : Bool := false
  deriving Repr

namespace Method

/-- The key of the canned value a method answers: its operation name and `Result`. -/
def resultKey (m : Method) : String :=
  m.operation ++ "Result"

/-- Whether a method answers a canned value or a stream, so that its service shows that
value in its debug view. -/
def showsResult (m : Method) : Bool :=
  match m.answer with
  | .text | .int64 | .handle | .fragments => true
  | .nothing | .config => false

/-- The operation of the method at place `n` of its code table. -/
def operationAt (m : Method) (n : Nat) : Operation :=
  .numbered n m.operation m.returns

end Method

/-- The arguments naming a record: data source, record id and flags. -/
def recordParams : List Param :=
  [.text "data_source_code" "dataSourceCode", .text "record_id" "recordID", .int64 "flags" "flags"]

/-- The arguments naming an entity: entity id and flags. -/
def entityParams : List Param :=
  [.int64 "entity_id" "entityID", .int64 "flags" "flags"]

/-- The arguments of `initialize`: instance name, settings, verbosity. -/
def initializeParams : List Param :=
  [.text "instance_name" "instanceName", .text "settings" "settings",
    .int64 "verbose_logging" "verboseLogging"]

/-- The arguments of a network search after its first argument. -/
def networkParams : List Param :=
  [.int64 "max_degrees" "maxDegrees", .int64 "build_out_degrees" "buildOutDegrees",
    .int64 "build_out_max_entities" "buildOutMaxEntities", .int64 "flags" "flags"]

namespace Component

/-- The own methods of a component, in the order of its code table. -/
def methods : Component → List Method
  | .config => [
      { name := "add_data_source", operation := "AddDataSource", answer := .text, returns := true,
        params := [.text "data_source_code" "dataSourceCode"] },
      { name := "delete_data_source", operation := "DeleteDataSource", answer := .text,
        params := [.text "data_source_code" "dataSourceCode"] },
      { name := "destroy", operation := "Destroy", answer := .nothing, params := [] },
      { name := "export", operation := "Export", answer := .text, params := [] },
      { name := "get_data_sources", operation := "GetDataSources", answer := .text, params := [] },
      { name := "import", operation := "Import", answer := .nothing,
        params := [.document "config_definition"] },
      { name := "import_template", operation := "ImportTemplate", answer := .nothing, params := [] },
      { name := "initialize", operation := "Initialize", answer := .nothing,
        params := initializeParams },
      { name := "verify_config_definition", operation := "VerifyConfigDefinition",
        answer := .nothing, params := [.document "config_definition"] }]
  | .configManager => [
      { name := "add_config", operation := "AddConfig", answer := .int64, returns := true,
        params := [.document "config_definition", .text "config_comment" "configComment"] },
      { name := "create_config_from_config_id", operation := "CreateConfigFromConfigID",
        answer := .config, params := [.int64 "config_id" "configID"] },
      { name := "create_config_from_string", operation := "CreateConfigFromString",
        answer := .config, params := [.document "config_definition"] },
      { name := "create_config_from_template", operation := "CreateConfigFromTemplate",
        answer := .config, params := [] },
      { name := "destroy", operation := "Destroy", answer := .nothing, params := [] },
      { name := "get_config", operation := "GetConfig", answer := .text,
        params := [.int64 "config_id" "configID"] },
      { name := "get_configs", operation := "GetConfigs", answer := .text, params := [] },
      { name := "get_default_config_id", operation := "GetDefaultConfigID", answer := .int64,
        returns := true, params := [] },
      { name := "initialize", operation := "Initialize", answer := .nothing,
        params := initializeParams },
      { name := "register_config", operation := "RegisterConfig", answer := .int64,
        returns := true,
        params := [.document "config_definition", .text "config_comment" "configComment"] },
      { name := "replace_default_config_id", operation := "ReplaceDefaultConfigID",
        answer := .nothing,
        params := [.int64 "current_default_config_id" "currentDefaultConfigID",
          .int64 "new_default_config_id" "newDefaultConfigID"] },
      { name := "set_default_config", operation := "SetDefaultConfig", answer := .int64,
        returns := true,
        params := [.document "config_definition", .text "config_comment" "configComment"] },
      { name := "set_default_config_id", operation := "SetDefaultConfigID", answer := .nothing,
        params := [.int64 "config_id" "configID"] }]
  | .diagnostic => [
      { name := "check_datastore_performance", operation := "CheckDatastorePerformance",
        answer := .text, params := [.int64 "seconds_to_run" "secondsToRun"] },
      { name := "destroy", operation := "Destroy", answer := .nothing, params := [] },
      { name := "get_datastore_info", operation := "GetDatastoreInfo", answer := .text,
        params := [] },
      { name := "get_feature", operation := "GetFeature", answer := .text,
        params := [.int64 "feature_id" "featureID"] },
      { name := "initialize", operation := "Initialize", answer := .nothing,
        params := initializeParams },
      { name := "initialize_with_config_id", operation := "InitializeWithConfigID",
        answer := .nothing,
        params := [.text "instance_name" "instanceName", .text "settings" "settings",
          .int64 "config_id" "configID", .int64 "verbose_logging" "verboseLogging"] },
      { name := "purge_repository", operation := "PurgeRepository", answer := .nothing,
        params := [] },
      { name := "reinitialize", operation := "Reinitialize", answer := .nothing,
        params := [.int64 "config_id" "configID"] }]
  | .engine => [
      { name := "add_record", operation := "AddRecord", answer := .text,
        params := [.text "data_source_code" "dataSourceCode", .text "record_id" "recordID",
          .document "record_definition", .int64 "flags" "flags"] },
      { name := "close_export_report", operation := "CloseExportReport", answer := .nothing,
        params := [.handle "export_handle" "exportHandle"] },
      { name := "count_redo_records", operation := "CountRedoRecords", answer := .int64,
        returns := true, params := [] },
      { name := "delete_record", operation := "DeleteRecord", answer := .text,
        params := recordParams },
      { name := "destroy", operation := "Destroy", answer := .nothing, params := [] },
      { name := "export_csv_entity_report", operation := "ExportCsvEntityReport",
        answer := .handle, returns := true,
        params := [.text "csv_column_list" "csvColumnList", .int64 "flags" "flags"] },
      { name := "export_csv_entity_report_iterator", operation := "ExportCsvEntityReportIterator",
        answer := .fragments,
        params := [.text "csv_column_list" "csvColumnList", .int64 "flags" "flags"] },
      { name := "export_json_entity_report", operation := "ExportJSONEntityReport",
        answer := .handle, returns := true, params := [.int64 "flags" "flags"] },
      { name := "export_json_entity_report_iterator",
        operation := "ExportJSONEntityReportIterator", answer := .fragments,
        params := [.int64 "flags" "flags"] },
      { name := "fetch_next", operation := "FetchNext", answer := .text,
        params := [.handle "export_handle" "exportHandle"] },
      { name := "find_interesting_entities_by_entity_id",
        operation := "FindInterestingEntitiesByEntityID", answer := .text,
        params := entityParams },
      { name := "find_interesting_entities_by_record_id",
        operation := "FindInterestingEntitiesByRecordID", answer := .text,
        params := recordParams },
      { name := "find_network_by_entity_id", operation := "FindNetworkByEntityID",
        answer := .text, params := .text "entity_ids" "entityIDs" :: networkParams },
      { name := "find_network_by_record_id", operation := "FindNetworkByRecordID",
        answer := .text, params := .text "record_keys" "recordKeys" :: networkParams },
      { name := "find_path_by_entity_id", operation := "FindPathByEntityID", answer := .text,
        params := [.int64 "start_entity_id" "startEntityID",
          .int64 "end_entity_id" "endEntityID", .int64 "max_degrees" "maxDegrees",
          .text "avoid_entity_ids" "avoidEntityIDs",
          .text "required_data_sources" "requiredDataSources", .int64 "flags" "flags"] },
      { name := "find_path_by_record_id", operation := "FindPathByRecordID", answer := .text,
        params := [.text "start_data_source_code" "startDataSourceCode",
          .text "start_record_id" "startRecordID",
          .text "end_data_source_code" "endDataSourceCode",
          .text "end_record_id" "endRecordID", .int64 "max_degrees" "maxDegrees",
          .text "avoid_record_keys" "avoidRecordKeys",
          .text "required_data_sources" "requiredDataSources", .int64 "flags" "flags"] },
      { name := "get_active_config_id", operation := "GetActiveConfigID", answer := .int64,
        returns := true, params := [] },
      { name := "get_entity_by_entity_id", operation := "GetEntityByEntityID", answer := .text,
        params := entityParams },
      { name := "get_entity_by_record_id", operation := "GetEntityByRecordID", answer := .text,
        params := recordParams },
      { name := "get_record", operation := "GetRecord", answer := .text,
        params := recordParams },
      { name := "get_redo_record", operation := "GetRedoRecord", answer := .text, params := [] },
      { name := "get_stats", operation := "GetStats", answer := .text, params := [] },
      { name := "get_virtual_entity_by_record_id", operation := "GetVirtualEntityByRecordID",
        answer := .text,
        params := [.text "record_keys" "recordKeys", .int64 "flags" "flags"] },
      { name := "how_entity_by_entity_id", operation := "HowEntityByEntityID", answer := .text,
        params := entityParams },
      { name := "initialize", operation := "Initialize", answer := .nothing,
        params := [.text "instance_name" "instanceName", .text "settings" "settings",
          .int64 "config_id" "configID", .int64 "verbose_logging" "verboseLogging"] },
      { name := "preprocess_record", operation := "PreprocessRecord", answer := .text,
        params := [.document "record_definition", .int64 "flags" "flags"] },
      { name := "prime_engine", operation := "PrimeEngine", answer := .nothing, params := [] },
      { name := "process_redo_record", operation := "ProcessRedoRecord", answer := .text,
        params := [.document "redo_record", .int64 "flags" "flags"] },
      { name := "reevaluate_entity", operation := "ReevaluateEntity", answer := .text,
        params := entityParams },
      { name := "reevaluate_record", operation := "ReevaluateRecord", answer := .text,
        params := recordParams },
      { name := "reinitialize", operation := "Reinitialize", answer := .nothing,
        params := [.int64 "config_id" "configID"] },
      { name := "search_by_attributes", operation := "SearchByAttributes", answer := .text,
        params := [.document "attributes", .text "search_profile" "searchProfile",
          .int64 "flags" "flags"] },
      { name := "why_entities", operation := "WhyEntities", answer := .text,
        params := [.int64 "entity_id_1" "entityID1", .int64 "entity_id_2" "entityID2",
          .int64 "flags" "flags"] },
      { name := "why_record_in_entity", operation := "WhyRecordInEntity", answer := .text,
        params := recordParams },
      { name := "why_records", operation := "WhyRecords", answer := .text,
        params := [.text "data_source_code_1" "dataSourceCode1",
          .text "record_id_1" "recordID1", .text "data_source_code_2" "dataSourceCode2",
          .text "record_id_2" "recordID2", .int64 "flags" "flags"] },
      { name := "why_search", operation := "WhySearch", answer := .text,
        params := [.document "attributes", .int64 "entity_id" "entityID",
          .text "search_profile" "searchProfile", .int64 "flags" "flags"] }]
  | .product => [
      { name := "destroy", operation := "Destroy", answer := .nothing, params := [] },
      { name := "get_license", operation := "GetLicense", answer := .text, params := [] },
      { name := "get_version", operation := "GetVersion", answer := .text, params := [] },
      { name := "initialize", operation := "Initialize", answer := .nothing,
        params := initializeParams }]

/-- Pairs each item of a list with its place, counting from `n`. -/
def numberFrom {α : Type} (n : Nat) : List α → List (Nat × α)
  | [] => []
  | a :: rest => (n, a) :: numberFrom (n + 1) rest

/-- The own methods of a component with their places in the code table. -/
def numberedMethods (c : Component) : List (Nat × Method) :=
  numberFrom 1 c.methods

/-- A method of the component by name, with its place in the code table. -/
def method? (c : Component) (name : String) : Option (Nat × Method) :=
  c.numberedMethods.find? (fun p => p.2.name == name)

/-- The observer and logging operations of the component. -/
def observable (c : Component) : ObservableCodes :=
  .after c.methods.length

end Component

end StubSdk
