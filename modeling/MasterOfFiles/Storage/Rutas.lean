import MasterOfFiles.Lib.Paths
import MasterOfFiles.Worker.Memoria

/-!
The three identities of a File:Tag in Storage: the directory its names are pasted into, the key
of its mutex, and the comparison that protects initial_file:BASE. Requests carry any text.
-/
namespace StorageRutas
open StorageEstado WorkerMemoria Paths

structure Par where
  file : String
  tag : String
  deriving DecidableEq

/-- What a query can name: file and tag without spaces, the file cut at the first ':'. -/
structure Enviable (p : Par) : Prop where
  file : p.file.toList ≠ []
  tag : p.tag.toList ≠ []
  separador : ':' ∉ p.file.toList
  sinEspacios : ' ' ∉ p.file.toList ∧ ' ' ∉ p.tag.toList

def rutaFiles (punto : List Char) : List Char := punto ++ "/files".toList

/-- "%s/files/%s/%s" -/
def rutaTag (punto : List Char) (p : Par) : List Char :=
  rutaFiles punto ++ '/' :: (p.file.toList ++ '/' :: p.tag.toList)

/-- The directory that the system resolves the path to. -/
def directorio (cwd : List Name) (punto : List Char) (p : Par) : List Name :=
  resolve cwd (rutaTag punto p)

/-- file_tag_id of get_or_create_file_mutex. -/
def claveMutex (p : Par) : List Char :=
  '<' :: (p.file.toList ++ ">:<".toList ++ p.tag.toList ++ ">".toList)

/-- The guard of eliminar_file_tag, before the paths are built. -/
def esProtegidoPar (p : Par) : Bool :=
  stringEqualsIgnoreCase p.file "initial_file" && stringEqualsIgnoreCase p.tag "BASE"

/-- The text that rm_rf hands to system(). -/
def comandoRm (ruta : List Char) : List Char := "rm -rf ".toList ++ ruta

def parBase : Par := ⟨"initial_file", "BASE"⟩

variable {cwd : List Name} {punto : List Char} {p q : Par}

/-- The directory is one below files/, and that of initial_file:BASE only if the guard says so. -/
structure EnRegla (cwd : List Name) (punto : List Char) (p : Par) : Prop where
  debajo : ∃ resto, resto ≠ [] ∧ directorio cwd punto p = resolve cwd (rutaFiles punto) ++ resto
  guarda : directorio cwd punto p = directorio cwd punto parBase → esProtegidoPar p = true

structure SinAlias (cwd : List Name) (punto : List Char) (p q : Par) : Prop where
  uno : EnRegla cwd punto p
  otro : EnRegla cwd punto q
  distintas : directorio cwd punto p ≠ directorio cwd punto q
  separadas : ¬ directorio cwd punto p <+: directorio cwd punto q ∧
    ¬ directorio cwd punto q <+: directorio cwd punto p
  cerrojo : claveMutex p = claveMutex q ↔ directorio cwd punto p = directorio cwd punto q

/-- `sh` gives the commands of a text, each as its words: rm is run once, on that directory. -/
def BorraSolo (sh : List Char → List (List (List Char))) (cwd : List Name) (punto : List Char)
    (p : Par) : Prop :=
  ∃ ruta, sh (comandoRm (rutaTag punto p)) = [["rm".toList, "-rf".toList, ruta]] ∧
    resolve cwd ruta = directorio cwd punto p

structure Plano (p : Par) : Prop where
  file : Plain p.file.toList
  tag : Plain p.tag.toList

def literal (c : Char) : Bool := caracterSimple c || c == '/'

def Literal (p : Par) : Prop := p.file.toList.all literal = true ∧ p.tag.toList.all literal = true

theorem directorio_walk (cwd : List Name) (punto : List Char) (p : Par) :
    directorio cwd punto p =
      walk (walk (resolve cwd (rutaFiles punto)) p.file.toList) p.tag.toList := by
  have some_ : rutaFiles punto ≠ [] := by simp [rutaFiles]
  rw [directorio, rutaTag, resolve_append some_, walk_append]

theorem directorio_plano (plain : Plano p) (cwd : List Name) (punto : List Char) :
    directorio cwd punto p =
      resolve cwd (rutaFiles punto) ++ [p.file.toList, p.tag.toList] := by
  rw [directorio_walk, walk_plain plain.file, walk_plain plain.tag, List.append_assoc]
  rfl

theorem par_of_nombres (file : p.file.toList = q.file.toList) (tag : p.tag.toList = q.tag.toList) :
    p = q := by
  cases p
  cases q
  simp only [Par.mk.injEq]
  exact ⟨String.toList_inj.mp file, String.toList_inj.mp tag⟩

theorem directorio_inj (hp : Plano p) (hq : Plano q)
    (same : directorio cwd punto p = directorio cwd punto q) : p = q := by
  rw [directorio_plano hp, directorio_plano hq] at same
  have names := List.append_cancel_left same
  simp only [List.cons.injEq, and_true] at names
  exact par_of_nombres names.1 names.2

theorem claveMutex_inj (hp : ':' ∉ p.file.toList) (hq : ':' ∉ q.file.toList)
    (same : claveMutex p = claveMutex q) : p = q := by
  have cut (r : Par) : claveMutex r =
      ('<' :: r.file.toList ++ ['>']) ++ ':' :: ('<' :: r.tag.toList ++ ['>']) := by
    simp [claveMutex]
  have parts (r : Par) (hr : ':' ∉ r.file.toList) : (claveMutex r).splitOn ':' =
      ('<' :: r.file.toList ++ ['>']) :: ('<' :: r.tag.toList ++ ['>']).splitOn ':' := by
    rw [cut, List.splitOn_append_cons_self_of_not_mem (by simp [hr])]
  have file : p.file.toList = q.file.toList := by
    have heads := (parts p hp).symm.trans ((congrArg _ same).trans (parts q hq))
    simpa using (List.cons.inj heads).1
  refine par_of_nombres file ?_
  rw [cut, cut, file] at same
  simpa using List.append_cancel_left same

theorem plano_base : Plano parBase := by
  constructor <;> constructor <;> decide

theorem enRegla_plano (plain : Plano p) (cwd : List Name) (punto : List Char) :
    EnRegla cwd punto p := by
  refine ⟨⟨_, by simp, directorio_plano plain cwd punto⟩, fun same => ?_⟩
  rw [directorio_inj plain plano_base same]
  decide

theorem sinAlias_planos (hp : Plano p) (hq : Plano q) (fileP : ':' ∉ p.file.toList)
    (fileQ : ':' ∉ q.file.toList) (other : p ≠ q) (cwd : List Name) (punto : List Char) :
    SinAlias cwd punto p q := by
  have distintas : directorio cwd punto p ≠ directorio cwd punto q :=
    fun same => other (directorio_inj hp hq same)
  have size : (directorio cwd punto p).length = (directorio cwd punto q).length := by
    rw [directorio_plano hp, directorio_plano hq, List.length_append, List.length_append]
    rfl
  refine ⟨enRegla_plano hp cwd punto, enRegla_plano hq cwd punto, distintas, ⟨?_, ?_⟩, ?_⟩
  · exact fun inside => distintas (inside.eq_of_length size)
  · exact fun inside => distintas (inside.eq_of_length size.symm).symm
  · exact ⟨fun same => absurd (claveMutex_inj fileP fileQ same) other,
      fun same => absurd same distintas⟩

theorem comandoRm_palabras (ruta : List Char) :
    comandoRm ruta = [' '].intercalate ["rm".toList, "-rf".toList, ruta] := by
  have head : "rm -rf ".toList = "rm".toList ++ [' '] ++ ("-rf".toList ++ [' ']) := by decide
  unfold comandoRm
  rw [head, List.intercalate_cons_cons, List.intercalate_cons_cons, List.intercalate_singleton]
  simp only [List.append_assoc]

theorem borraSolo_literal {sh : List Char → List (List (List Char))}
    (words : ∀ ws : List (List Char), ws ≠ [] →
      (∀ w ∈ ws, w ≠ [] ∧ w.all literal = true) → sh ([' '].intercalate ws) = [ws])
    (cwd : List Name) {punto : List Char} (mount : punto.all literal = true) (plain : Literal p) :
    BorraSolo sh cwd punto p := by
  refine ⟨rutaTag punto p, ?_, rfl⟩
  have ruta : (rutaTag punto p).all literal = true := by
    have slash : literal '/' = true := by decide
    have files : "/files".toList.all literal = true := by decide
    simp only [rutaTag, rutaFiles, List.all_append, List.all_cons, mount, files, slash, plain.1,
      plain.2, Bool.and_self]
  have some_ : rutaTag punto p ≠ [] := by simp [rutaTag]
  rw [comandoRm_palabras]
  refine words _ (by simp) ?_
  simp only [List.forall_mem_cons]
  exact ⟨by decide, by decide, ⟨some_, ruta⟩, by simp⟩

structure Apto (name : Name) : Prop where
  plain : Plain name
  separador : ':' ∉ name
  sinEspacios : ' ' ∉ name

theorem directorio_apto (sendable : Enviable p) (tag : ':' ∉ p.tag.toList) (cwd : List Name)
    (punto : List Char) : ∀ x ∈ (directorio cwd punto p).drop
      (resolve cwd (rutaFiles punto)).length, Apto x := by
  rw [directorio_walk]
  refine walk_below (walk_below (by simp) fun name plain own => ?_) fun name plain own => ?_
  · exact ⟨plain, fun h => sendable.separador (own _ h), fun h => sendable.sinEspacios.1 (own _ h)⟩
  · exact ⟨plain, fun h => tag (own _ h), fun h => sendable.sinEspacios.2 (own _ h)⟩

def parDe (x y : Name) : Par := ⟨String.ofList x, String.ofList y⟩

theorem parDe_plano {x y : Name} (hx : Apto x) (hy : Apto y) :
    Plano (parDe x y) ∧ Enviable (parDe x y) := by
  simp only [parDe]
  constructor
  · exact ⟨by simpa using hx.plain, by simpa using hy.plain⟩
  · constructor <;> simp [hx.plain.nonempty, hy.plain.nonempty, hx.separador, hx.sinEspacios,
      hy.sinEspacios]

theorem plano_of_sinAlias (sendable : Enviable p) (tag : ':' ∉ p.tag.toList)
    (alone : ∀ q, Enviable q → Plano q → q ≠ p → SinAlias cwd punto p q) : Plano p := by
  by_contra odd
  have differs {q : Par} (hq : Plano q) : q ≠ p := fun same => odd (same ▸ hq)
  have names := directorio_apto sendable tag cwd punto
  have letra : Apto ['T'] := ⟨by constructor <;> decide, by decide, by decide⟩
  obtain ⟨plainT, sendT⟩ := parDe_plano letra letra
  obtain ⟨resto, some_, below⟩ := (alone _ sendT plainT (differs plainT)).uno.debajo
  rw [below, List.drop_left] at names
  obtain _ | ⟨x, _ | ⟨y, more⟩⟩ := resto
  · exact some_ rfl
  · -- its directory is that of a whole file
    obtain ⟨plain, send⟩ := parDe_plano (names x (by simp)) letra
    have apart := (alone _ send plain (differs plain)).separadas.1
    rw [directorio_plano plain, below] at apart
    simp [parDe] at apart
  · -- it is the directory of a File:Tag, or inside of it
    obtain ⟨plain, send⟩ := parDe_plano (names x (by simp)) (names y (by simp))
    have apart := (alone _ send plain (differs plain)).separadas.2
    rw [directorio_plano plain, below] at apart
    simp [parDe] at apart

/-- Two pairs of plain names share nothing, and DELETE removes one directory when the shell leaves
    its path as it is; any other pair is at odds with some pair of plain names. -/
theorem nombres_planos_sin_alias {sh : List Char → List (List (List Char))}
    (words : ∀ ws : List (List Char), ws ≠ [] →
      (∀ w ∈ ws, w ≠ [] ∧ w.all literal = true) → sh ([' '].intercalate ws) = [ws])
    (cwd : List Name) {punto : List Char} (mount : punto.all literal = true) :
    (∀ p q, Enviable p → Enviable q → Plano p → Plano q → p ≠ q → SinAlias cwd punto p q) ∧
      (∀ p, Literal p → BorraSolo sh cwd punto p) ∧
      ∀ p, Enviable p → ':' ∉ p.tag.toList →
        (∀ q, Enviable q → Plano q → q ≠ p → SinAlias cwd punto p q) → Plano p := by
  refine ⟨fun p q sendP sendQ hp hq other => ?_, fun p plain => ?_, fun p send tag => ?_⟩
  · exact sinAlias_planos hp hq sendP.separador sendQ.separador other cwd punto
  · exact borraSolo_literal words cwd mount plain
  · exact plano_of_sinAlias send tag

def montaje : List Char := "/home/utnso/storage".toList

/-- A shell that only cuts its text at the spaces. -/
def soloPalabras (texto : List Char) : List (List (List Char)) := [texto.splitOn ' ']

theorem soloPalabras_literal (ws : List (List Char)) (some_ : ws ≠ [])
    (plain : ∀ w ∈ ws, w ≠ [] ∧ w.all literal = true) :
    soloPalabras ([' '].intercalate ws) = [ws] := by
  refine congrArg (fun text => [text]) (List.splitOn_intercalate ' ' (fun w hw space => ?_) some_)
  have here := List.all_eq_true.mp (plain w hw).2 ' ' space
  contradiction

theorem nombres_planos_sin_alias_dos :
    SinAlias [] montaje ⟨"A", "1"⟩ ⟨"A", "2"⟩ ∧ BorraSolo soloPalabras [] montaje ⟨"A", "1"⟩ := by
  have mount : montaje.all literal = true := by decide
  obtain ⟨apart, removes, _⟩ := nombres_planos_sin_alias soloPalabras_literal [] mount
  refine ⟨apart _ _ ?_ ?_ ?_ ?_ (by decide), removes _ ⟨by decide, by decide⟩⟩
  · constructor <;> decide
  · constructor <;> decide
  · exact ⟨by constructor <;> decide, by constructor <;> decide⟩
  · exact ⟨by constructor <;> decide, by constructor <;> decide⟩

/-- "./initial_file" has the directory of initial_file, another mutex, and no protection. -/
theorem otra_escritura_mismo_directorio :
    Enviable ⟨"./initial_file", "BASE"⟩ ∧ Enviable parBase ∧
      directorio [] montaje ⟨"./initial_file", "BASE"⟩ = directorio [] montaje parBase ∧
      claveMutex ⟨"./initial_file", "BASE"⟩ ≠ claveMutex parBase ∧
      esProtegidoPar ⟨"./initial_file", "BASE"⟩ = false ∧
      ¬ SinAlias [] montaje ⟨"./initial_file", "BASE"⟩ parBase := by
  have same : directorio [] montaje ⟨"./initial_file", "BASE"⟩ =
      directorio [] montaje parBase := by decide
  refine ⟨?_, ?_, same, by decide, by decide, fun apart => apart.distintas same⟩
  · constructor <;> decide
  · constructor <;> decide

def suPar (f : FileTag) : Par := ⟨f.file.texto, f.tag.texto⟩

theorem nombre_plain (n : Nombre) :
    Plain n.texto.toList ∧ n.texto.toList.all literal = true := by
  obtain ⟨nonempty, notDot, notUp, simple⟩ := n.simple
  have text {s : String} (other : n.texto ≠ s) : n.texto.toList ≠ s.toList :=
    fun same => other (String.toList_inj.mp same)
  have chars := List.all_eq_true.mp simple
  refine ⟨⟨text nonempty, text notDot, text notUp, fun slash => ?_⟩, ?_⟩
  · have here := chars '/' slash
    contradiction
  · refine List.all_eq_true.mpr fun c hc => ?_
    rw [literal, chars c hc, Bool.true_or]

theorem par_plano (f : FileTag) : Plano (suPar f) ∧ Literal (suPar f) :=
  ⟨⟨(nombre_plain f.file).1, (nombre_plain f.tag).1⟩,
    (nombre_plain f.file).2, (nombre_plain f.tag).2⟩

theorem archivos_sin_alias {f g : Archivo} (other : f ≠ g) (cwd : List Name)
    (punto : List Char) : SinAlias cwd punto (suPar f.val) (suPar g.val) := by
  refine sinAlias_planos (par_plano f.val).1 (par_plano g.val).1 f.property g.property
    (fun same => other ?_) cwd punto
  obtain ⟨⟨⟨file, _⟩, ⟨tag, _⟩⟩, _⟩ := f
  obtain ⟨⟨⟨file', _⟩, ⟨tag', _⟩⟩, _⟩ := g
  simp only [suPar, Par.mk.injEq] at same
  obtain ⟨rfl, rfl⟩ := same
  rfl

end StorageRutas
