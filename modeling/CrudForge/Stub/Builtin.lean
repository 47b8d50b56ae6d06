import CrudForge.Artifact
import CrudForge.Text.Split

/-!
# Built-in stubs

The templates from which files are made when a project has none of its own.

## Main definitions

* `Stub.parts` — the template of a kind, as texts and slots.
* `Stub.builtin?` — the built-in stub of a name.
-/

namespace CrudForge.Stub

inductive Part
  | text (s : String)
  | slot (key : String)
  deriving DecidableEq

instance : Coe String Part := ⟨.text⟩

def Part.print : Part → String
  | text s => s
  | slot key => "\x7b\x7b" ++ key ++ "\x7d\x7d"

def resource : Part := .slot "modelName"

def plural : Part := .slot "modelNamePluralLowerCase"

def singular : Part := .slot "modelNameSingularLowerCase"

def fillable : Part := .slot "fillable"

def rules : Part := .slot "validationRules"

def fields : Part := .slot "fields"

def cells : Part := .slot "rowFields"

def model : List Part := [
  "<?php

namespace App\\Models;

use Illuminate\\Database\\Eloquent\\Factories\\HasFactory;
use Illuminate\\Database\\Eloquent\\Model;

class ", resource, " extends Model
\x7b
    use HasFactory;

    protected $fillable = [", fillable, "];
\x7d
"]

/-- The controller up to its first method. -/
def controllerHead : List Part := [
  "<?php

namespace App\\Http\\Controllers;

use App\\Helpers\\FlashHelper;
use App\\Models\\", resource, ";
use Illuminate\\Http\\Request;

class ", resource, "Controller extends Controller
\x7b
"]

/-- The method that ties the other methods to permissions. -/
def permissions : List Part := [
  "    public function __construct()
    \x7b
        $this->middleware('permission:view-", plural, "')->only('index', 'show');
        $this->middleware('permission:create-", plural, "')->only('create', 'store');
        $this->middleware('permission:edit-", plural, "')->only('edit', 'update');
        $this->middleware('permission:delete-", plural, "')->only('destroy');
    \x7d

"]

def showing : List Part := [
  "    public function index()
    \x7b
        $", plural, " = ", resource, "::paginate(10);
        return view('", plural, ".index', compact('", plural, "'));
    \x7d

    public function create()
    \x7b
        return view('", plural, ".create');
    \x7d

"]

def storing : List Part := [
  "    public function store(Request $request)
    \x7b
        $validated = $request->validate([
            ", rules, "
        ]);

        ", resource, "::create($validated);

        FlashHelper::success('", resource, " created successfully.');
        return redirect()->route('", plural, ".index');
    \x7d

"]

def editing : List Part := [
  "    public function edit(", resource, " $", singular, ")
    \x7b
        return view('", plural, ".edit', ['item' => $", singular, "]);
    \x7d

"]

def updating : List Part := [
  "    public function update(Request $request, ", resource, " $", singular, ")
    \x7b
        $validated = $request->validate([
            ", rules, "
        ]);

        $", singular, "->update($validated);

        FlashHelper::success('", resource, " updated successfully.');
        return redirect()->route('", plural, ".index');
    \x7d

"]

def deleting : List Part := [
  "    public function destroy(", resource, " $", singular, ")
    \x7b
        $", singular, "->delete();
        FlashHelper::success('", resource, " deleted successfully.');
        return redirect()->route('", plural, ".index');
    \x7d
\x7d
"]

def controller : List Part :=
  controllerHead ++ permissions ++ showing ++ storing ++ editing ++ updating ++ deleting

def listView : List Part := [
  "@extends('adminlte::page')

@section('title', '", resource, "')

@section('content_header')
    <h1>", resource, "</h1>
@stop

@section('content')
    <div class=\"card\">
        <div class=\"card-header\">
            <h3 class=\"card-title\">", resource, " List</h3>
            @can('create-", plural, "')
                <div class=\"card-tools\">
                    <a href=\"\x7b\x7b route('", plural,
  ".create') \x7d\x7d\" class=\"btn btn-primary\">
                        <i class=\"fas fa-plus\"></i> Create ", resource, "
                    </a>
                </div>
            @endcan
        </div>
        <div class=\"card-body\">
            @if(session('success'))
                <div class=\"alert alert-success alert-dismissible\">
                    <button type=\"button\" class=\"close\" data-dismiss=\"alert\" aria-hidden=\"true\">×</button>
                    \x7b\x7b session('success') \x7d\x7d
                </div>
            @endif

            <table class=\"table table-bordered\">
                <thead>
                    <tr>
", fields, "
                        <th>Actions</th>
                    </tr>
                </thead>
                <tbody>
                    @foreach($", plural, " as $item)
                        <tr>
", cells, "
                            <td>
                                <div class=\"btn-group\">
                                    @can('edit-", plural, "')
                                        <a href=\"\x7b\x7b route('", plural,
  ".edit', $item) \x7d\x7d\" class=\"btn btn-warning btn-sm\">
                                            <i class=\"fas fa-edit\"></i>
                                        </a>
                                    @endcan
                                    @can('delete-", plural, "')
                                        <form action=\"\x7b\x7b route('", plural,
  ".destroy', $item) \x7d\x7d\" method=\"POST\" style=\"display: inline;\">
                                            @csrf
                                            @method('DELETE')
                                            <button type=\"submit\" class=\"btn btn-danger btn-sm\" onclick=\"return confirm('Are you sure?')\">
                                                <i class=\"fas fa-trash\"></i>
                                            </button>
                                        </form>
                                    @endcan
                                </div>
                            </td>
                        </tr>
                    @endforeach
                </tbody>
            </table>
        </div>
        <div class=\"card-footer clearfix\">
            \x7b\x7b $", plural, "->links() \x7d\x7d
        </div>
    </div>
@stop
"]

def createView : List Part := [
  "@extends('adminlte::page')

@section('title', 'Create ", resource, "')

@section('content_header')
    <h1>Create ", resource, "</h1>
@stop

@section('content')
    <div class=\"card\">
        <div class=\"card-body\">
            <form action=\"\x7b\x7b route('", plural,
  ".store') \x7d\x7d\" method=\"POST\" enctype=\"multipart/form-data\">
                @csrf
", fields, "

                <button type=\"submit\" class=\"btn btn-primary\">Create ", resource, "</button>
                <a href=\"\x7b\x7b route('", plural,
  ".index') \x7d\x7d\" class=\"btn btn-default\">Cancel</a>
            </form>
        </div>
    </div>
@stop
"]

def editView : List Part := [
  "@extends('adminlte::page')

@section('title', 'Edit ", resource, "')

@section('content_header')
    <h1>Edit ", resource, "</h1>
@stop

@section('content')
    <div class=\"card\">
        <div class=\"card-body\">
            <form action=\"\x7b\x7b route('", plural,
  ".update', $item) \x7d\x7d\" method=\"POST\" enctype=\"multipart/form-data\">
                @csrf
                @method('PUT')
", fields, "

                <button type=\"submit\" class=\"btn btn-primary\">Update ", resource, "</button>
                <a href=\"\x7b\x7b route('", plural,
  ".index') \x7d\x7d\" class=\"btn btn-default\">Cancel</a>
            </form>
        </div>
    </div>
@stop
"]

def parts : ArtifactKind → List Part
  | .model => model
  | .controller => controller
  | .listView => listView
  | .createView => createView
  | .editView => editView

def print (template : List Part) : String :=
  Text.concat (template.map Part.print)

def builtin (kind : ArtifactKind) : String :=
  print (parts kind)

def builtin? (name : String) : Option String :=
  (ArtifactKind.ofStubName? name).map builtin

end CrudForge.Stub
