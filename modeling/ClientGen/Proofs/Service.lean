import ClientGen.Proofs.Definition
import ClientGen.Proofs.Operation
import ClientGen.Service

/-!
# What a service is made of

A service is built exactly if all operations of its document become methods and
the document has an address. `Service.of` says what it is then: the methods,
the models, and the table that is left when the promoted enumerations are
registered and the declared ones shadowed.
-/

namespace ClientGen.Service

open Traced

/-- The value of a field that describes the document. -/
def infoOf (document : Fields) (name : String) : Value :=
  (Fields.get? ((document.get "info").fields?.getD []) name).getD (.str "")

/-- The table that the methods and models of a document leave. -/
def tableOf (document : Fields) (onServer : Bool) : EnumTable :=
  (EnumTable.empty.registerAll (Operation.promotions onServer document)).shadowAll
    ((Definition.declaredNames document).map .str)

/-- The service of a document with the given methods and address. -/
def of (document : Fields) (onServer : Bool) (methods : List Method)
    (domain : String) : Service where
  onServer := onServer
  title := infoOf document "title"
  version := infoOf document "version"
  description := infoOf document "description"
  isSecure := document.has "securityDefinitions"
  domain := domain
  methods := methods
  enums := tableOf document onServer
  definitions := Definition.readAll document
  modelEnums := modelEnumsOf (Definition.readAll document)

/-- The parts of a service whose methods are read and that has an address. -/
private theorem parts_eq {document : Fields} {onServer : Bool}
    {methods : List Method} {domain : String}
    (hmethods :
      (Method.buildAll (.map document) onServer).outcome = .ok methods)
    (hdomain : domainOf document = .ok domain) :
    parts document onServer =
      ⟨(Method.buildAll (.map document) onServer).events ++
          .methodsBuilt methods.length :: (Definition.allEvents document ++
            [.definitionsBuilt (Definition.readAll document).length]),
        .ok { of document onServer methods domain with enums := .empty }⟩ := by
  cases hall : Method.buildAll (.map document) onServer with
  | mk events outcome =>
    rw [hall] at hmethods
    subst hmethods
    simp only [parts, hall, hdomain]
    rfl

/-- A fault of an operation ends the building of a service. -/
private theorem outcome_parts_of_methods_fault {document : Fields}
    {onServer : Bool} {e : Fault}
    (h : (Method.buildAll (.map document) onServer).outcome = .error e) :
    (parts document onServer).outcome = .error e := by
  cases hall : Method.buildAll (.map document) onServer with
  | mk events outcome =>
    rw [hall] at h
    subst h
    simp only [parts, hall]
    rfl

/-- A fault of the address ends the building of a service, once its methods are
read. -/
private theorem outcome_parts_of_domain_fault {document : Fields}
    {onServer : Bool} {methods : List Method} {e : Fault}
    (hmethods :
      (Method.buildAll (.map document) onServer).outcome = .ok methods)
    (hdomain : domainOf document = .error e) :
    (parts document onServer).outcome = .error e := by
  cases hall : Method.buildAll (.map document) onServer with
  | mk events outcome =>
    rw [hall] at hmethods
    subst hmethods
    simp only [parts, hall, hdomain]
    rfl

/-- The table that the events of a service leave. -/
private theorem tableAfter_parts {document : Fields} {onServer : Bool}
    {methods : List Method} {domain : String}
    (hmethods :
      (Method.buildAll (.map document) onServer).outcome = .ok methods)
    (hdomain : domainOf document = .ok domain) :
    EnumTable.empty.applyAll (parts document onServer).events =
      tableOf document onServer := by
  have hpromoted := Operation.tableAfter_buildAll hmethods EnumTable.empty
  rw [parts_eq hmethods hdomain, tableOf, ← hpromoted,
    ← Definition.applyAll_allEvents, tableAfter]
  simp [EnumTable.apply]

/-- What becomes of a document: a fault of one of its operations comes first,
then one of its address. -/
theorem build_outcome (document : Fields) (onServer : Bool) :
    (build (.map document) onServer).outcome =
      (Method.buildAll (.map document) onServer).outcome.bind fun methods =>
        (domainOf document).map (of document onServer methods) := by
  have hbuild : (build (.map document) onServer).outcome =
      (parts document onServer).outcome.map fun s =>
        { s with enums :=
            EnumTable.empty.applyAll (parts document onServer).events } := rfl
  rw [hbuild]
  cases hmethods : (Method.buildAll (.map document) onServer).outcome with
  | error e =>
    rw [outcome_parts_of_methods_fault hmethods]
    rfl
  | ok methods =>
    cases hdomain : domainOf document with
    | error e =>
      rw [outcome_parts_of_domain_fault hmethods hdomain]
      rfl
    | ok domain =>
      rw [tableAfter_parts hmethods hdomain, parts_eq hmethods hdomain]
      rfl

/-- A document becomes a service exactly if its operations become methods and
it has an address. -/
theorem build_outcome_eq_ok {document : Fields} {onServer : Bool}
    {s : Service} :
    (build (.map document) onServer).outcome = .ok s ↔
      ∃ methods domain,
        (Method.buildAll (.map document) onServer).outcome = .ok methods ∧
        domainOf document = .ok domain ∧
        s = of document onServer methods domain := by
  rw [build_outcome]
  cases (Method.buildAll (.map document) onServer).outcome with
  | error e => simp [Except.bind]
  | ok methods =>
    cases domainOf document with
    | error e => simp [Except.bind, Except.map]
    | ok domain => simp [Except.bind, Except.map, eq_comm]

/-! ### A small document -/

/-- A shop with orders and their lines. Two operations and a model compete for
the names of enumerations, and each model points at the other one. -/
def shop : Fields :=
  [ (.str "paths", .map
      [ (.str "/orders", .map
          [ (.str "parameters", .list
              [ .map
                  [ (.str "name", .str "status"), (.str "type", .str "string"),
                    (.str "in", .str "query"),
                    (.str "enum", .list [.str "open", .str "closed"]) ] ]),
            (.str "get", .map
              [ (.str "parameters", .list
                  [ .map
                      [ (.str "name", .str "size"), (.str "type", .str "string"),
                        (.str "in", .str "query"),
                        (.str "enum", .list [.str "small", .str "large"]) ],
                    .map
                      [ (.str "name", .str "agent"),
                        (.str "type", .str "string"),
                        (.str "in", .str "header"),
                        (.str "x-proxy-header", .bool true),
                        (.str "enum", .list [.str "web", .str "app"]) ] ]),
                (.str "responses", .map
                  [ (.str "200", .map
                      [ (.str "schema", .map
                          [ (.str "type", .str "array"),
                            (.str "items", .map
                              [ (.str "$ref",
                                  .str "#/definitions/sales-order") ]) ]) ]) ]) ]),
            (.str "post", .map
              [ (.str "parameters", .list
                  [ .map
                      [ (.str "name", .str "status"),
                        (.str "type", .str "string"),
                        (.str "in", .str "query"),
                        (.str "enum", .list [.str "old", .str "new"]) ],
                    .map
                      [ (.str "name", .str "order"), (.str "in", .str "body"),
                        (.str "schema", .map
                          [ (.str "$ref", .str "sales-order") ]) ] ]) ]) ]) ]),
    (.str "definitions", .map
      [ (.str "sales-order", .map
          [ (.str "properties", .map
              [ (.str "size", .map
                  [ (.str "enum", .list [.str "large"]) ]),
                (.str "lines", .map
                  [ (.str "type", .str "array"),
                    (.str "items", .map
                      [ (.str "$ref", .str "#/definitions/Line") ]) ]) ]) ]),
        (.str "Line", .map
          [ (.str "allOf", .list
              [ .map
                  [ (.str "properties", .map
                      [ (.str "order", .map
                          [ (.str "$ref", .str "sales-order") ]) ]) ] ]) ]) ]) ]

end ClientGen.Service
