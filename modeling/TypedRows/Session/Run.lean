import TypedRows.Session.Action

/-! Running actions on a session. An action has an answer, may leave a result to be kept under a
name, and records events; one that fails leaves the session as it was. -/
namespace TypedRows

/-- What an action leaves behind. -/
structure Reply where
  answer : Answer
  /-- The result to be kept, if the action has one. -/
  result : Option Entry
  session : Session
  events : List Event

namespace Session

/-- An answer that changes nothing. -/
def answer (session : Session) (answer : Answer) : Reply := ⟨answer, none, session, []⟩

/-- An answer whose result can be kept. -/
def answerWith (session : Session) (answer : Answer) (result : Entry) : Reply :=
  ⟨answer, some result, session, []⟩

/-- Answers a failure, or goes on with the result; the events are kept either way. -/
def finish {ε α : Type} (session : Session) (toFault : ε → Fault) (traced : Traced ε α)
    (next : α → Reply) : Reply :=
  match traced.result with
  | .error error => ⟨.failed (toFault error), none, session, traced.events⟩
  | .ok a => { next a with events := traced.events }

def finishExcept {ε α : Type} (session : Session) (toFault : ε → Fault) (result : Except ε α)
    (next : α → Reply) : Reply :=
  session.finish toFault (.ofExcept result) next

def view (session : Session) (type : TypeEntity) : TypeView :=
  ⟨type, (session.store.rootOf? type).isSome⟩

def answerRoot (session : Session) (root : Root) : Reply :=
  session.answerWith (.root root) (.root root.id)

def answerType (session : Session) (type : TypeEntity) : Reply :=
  session.answerWith (.type (session.view type)) (.type type)

/-- The row of a source; `none` if a name does not stand for one. -/
def row? (session : Session) : RowSource → Option (Option Row)
  | .absent => some none
  | .given row => some (some row)
  | .named name => (session.find? name >>= Entry.row?).map some

/-- Decodes a row through a root or a type. -/
def decodeThrough (session : Session) (holder : Holder) (row : Option Row) (tag : Tag)
    (keys : KeyValues) : Traced Fault Resolved :=
  match holder, tag with
  | .root root, .discovered => root.decode row keys
  | .root root, .known discriminator => root.decodeAs row discriminator keys
  | .type type, .discovered => type.decode (session.store.rootOf? type) row keys
  | .type type, .known discriminator =>
    type.decodeAs (session.store.rootOf? type) row discriminator keys

def answerResolved (session : Session) (shape : Option Shape) (outcome : Resolved) : Reply :=
  match shape with
  | some shape => session.answer (.downcast outcome (outcome.downcast? shape))
  | none => ⟨.resolved outcome, outcome.object?.map .object, session, []⟩

/-- The object of a source, given the entry that its name stood for. -/
def objectOf? (taken : Option Entry) : ObjectSource → Option Object
  | .given object => some object
  | .named _ => taken >>= Entry.object?

/-- What an action does, where every name stands for something of the right sort. `taken` is the
entry that the action has taken out of the session beforehand. -/
def perform? (session : Session) (taken : Option Entry) : Action → Option Reply
  | .addManager source => do
    return session.finishExcept .settings ((source.map (·.load)).getD (.ok {})) fun settings =>
      let (store, manager) := session.store.addManager settings
      { session with store }.answerWith (.settings settings) (.manager manager.id)
  | .rootEntity manager cls types => do
    let manager ← session.manager? manager
    return session.finish .model (session.store.rootEntity manager cls types) fun (store, root) =>
      { session with store }.answerRoot root
  | .newRoot manager cls types => do
    let manager ← session.manager? manager
    return session.finish .model (session.store.newRoot manager cls types) fun (store, root) =>
      { session with store }.answerRoot root
  | .registerDynamic root manager cls => do
    let root ← session.root? root
    let manager ← session.manager? manager
    return session.finish .model (session.store.registerDynamic root manager cls)
      fun (store, type) => { session with store }.answerType type
  | .register root type => do
    let root ← session.root? root
    let type ← session.type? type
    return session.finish .model (session.store.register root type) fun (store, root) =>
      { session with store }.answer (.root root)
  | .lookup root discriminator => do
    let root ← session.root? root
    return session.finishExcept .registry (root.lookup discriminator) session.answerType
  | .typeForClass root path => do
    let root ← session.root? root
    return ((root.typeForClass? path).map session.answerType).getD (session.answer .nothing)
  | .types root => do
    let root ← session.root? root
    return session.answer (.types (root.types.map session.view))
  | .findRoot manager path => do
    let manager ← session.manager? manager
    return ((session.store.findRoot? manager path).map session.answerRoot).getD
      (session.answer .nothing)
  | .roots manager => do
    let manager ← session.manager? manager
    return session.answer (.roots (session.store.keptRoots manager))
  | .report manager => do
    let manager ← session.manager? manager
    return session.answer (.report (session.store.report manager))
  | .snapshot holder => do
    return match ← session.holder? holder with
      | .root root => session.answer (.snapshot (.ofRoot root))
      | .type type => session.answer (.snapshot (.ofType type))
  | .same first second => do
    let first ← session.find? first
    let second ← session.find? second
    return session.answer (.flag (first.same second))
  | .type type => do
    let type ← session.type? type
    return session.answer (.type (session.view type))
  | .rootOf type => do
    let type ← session.type? type
    return ((session.store.rootOf? type).map session.answerRoot).getD (session.answer .nothing)
  | .render type => do
    let type ← session.type? type
    return session.answer (.text type.render)
  | .describe holder => do
    let holder ← session.holder? holder
    return session.answer (.entity holder.entity)
  | .table holder name columns => do
    let holder ← session.holder? holder
    return match holder.entity.table? name with
      | some table => session.answer (.table table (columns.map table.column?))
      | none => session.answer .nothing
  | .resolveKeyspace holder keys => do
    let holder ← session.holder? holder
    return session.finishExcept .conversion (holder.entity.resolveKeyspace keys) fun name =>
      session.answer (.text name)
  | .decodePlain holder row keys => do
    let holder ← session.holder? holder
    let some row ← session.row? row | none
    return session.finishExcept .conversion (holder.entity.decode row keys) fun object =>
      session.answer (.object object)
  | .decode holder row tag keys shape => do
    let holder ← session.holder? holder
    let row ← session.row? row
    return session.finish id (session.decodeThrough holder row tag keys)
      (session.answerResolved shape)
  | .wrap holder object => do
    let holder ← session.holder? holder
    let object ← objectOf? taken object
    return session.finishExcept .context (holder.wrap object) fun context =>
      session.answerWith (.type (session.view context.type)) (.context context)
  | .contextObject context => do
    let context ← session.context? context
    return session.answer (.object context.object)
  | .contextKeys context => do
    let context ← session.context? context
    return session.finishExcept .conversion context.keyValues fun keys =>
      session.answer (.keys keys)
  | .contextKeyspace context => do
    let context ← session.context? context
    return session.finishExcept .conversion context.keyspaceName fun name =>
      session.answer (.text name)
  | .contextColumns context table => do
    let context ← session.context? context
    return session.finishExcept id (context.columnValues table) fun values =>
      session.answer (.columns values)
  | .contextPrimaryKey context table => do
    let context ← session.context? context
    return session.finishExcept id (context.primaryKeyValues table) fun values =>
      session.answer (.columns values)
  | .contextRow context table => do
    let context ← session.context? context
    return session.finishExcept id (context.toRow table) fun row =>
      session.answerWith (.row row) (.row row)
  | .contextType context => do
    let context ← session.context? context
    return session.answerType context.type
  | .unwrap _ => do
    let context ← taken >>= Entry.context?
    return session.answerWith (.object context.object) (.object context.object)
  | .row row => do
    let some row ← session.row? row | none
    return session.answerWith (.row row) (.row row)
  | .forget _ => some (session.answer (.flag taken.isSome))

/-- Runs one request: takes out what the action takes, performs it, keeps its result under the
wanted name, and lets go of what nothing keeps alive any more. -/
def run (session : Session) (request : Request) : Answer × List Event × Session :=
  let taken := request.action.takes? >>= session.find?
  let start := (request.action.takes?.map session.forget).getD session
  let reply := (start.perform? taken request.action).getD (start.answer .noHandle)
  let kept := match request.keepAs, reply.result with
    | some name, some result => reply.session.keep name result
    | _, _ => reply.session
  (reply.answer, reply.events, kept.settle)

/-- Runs requests one after another. -/
def runAll (session : Session) : List Request → List (Answer × List Event)
  | [] => []
  | request :: rest =>
    let (answer, events, next) := session.run request
    (answer, events) :: runAll next rest

end Session

end TypedRows
