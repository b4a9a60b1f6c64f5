import Bindery.Binding.Error
import Bindery.Category.Method
import Bindery.Target.TypeName

/-!
# Service bindings

A service field is assigned a system service, named by the field's key or, for the well-known
service types, by a constant of the framework.
-/

namespace Bindery.Category.Service

/-- The service types with a known name, and the constants that hold these names. -/
def constants : List (String × String) :=
  [("android.view.LayoutInflater", "LAYOUT_INFLATER_SERVICE"),
   ("android.app.NotificationManager", "NOTIFICATION_SERVICE"),
   ("android.app.AlarmManager", "ALARM_SERVICE"),
   ("android.net.ConnectivityManager", "CONNECTIVITY_SERVICE"),
   ("android.view.inputmethod.InputMethodManager", "INPUT_METHOD_SERVICE"),
   ("android.os.Vibrator", "VIBRATOR_SERVICE"),
   ("android.view.WindowManager", "WINDOW_SERVICE"),
   ("android.content.ClipboardManager", "CLIPBOARD_SERVICE"),
   ("android.media.AudioManager", "AUDIO_SERVICE"),
   ("android.location.LocationManager", "LOCATION_SERVICE")]

/-- The expression that names the service: the key as a literal, else the constant of the type. -/
def nameExpression? (f : Field) : Option String :=
  match f.explicitKey with
  | some key => some (Target.literal key)
  | none => (constants.lookup f.type).map fun constant => "android.content.Context." ++ constant

/-- A service field needs a type that is no primitive, and a key or a known type. -/
def check (f : Field) : Except Rejection Unit :=
  if Target.isPrimitive f.type then .error (.primitiveType f.type)
  else if (nameExpression? f).isNone then .error (.unknownService f.type)
  else .ok ()

/-- The warnings that binding `f` causes: a key is no constant of the framework. -/
def warnings (f : Field) : List String :=
  if f.explicitKey.isSome then ["WrongConstant"] else []

/-- The roles of a host with a context. -/
def supports : HostKind → Bool
  | .activity | .fragment | .view | .service => true
  | .other => false

/-- The look-up of one service; accepted fields have a name for it. -/
def bindStatements (f : Field) : List Statement :=
  match nameExpression? f with
  | none => []
  | some service =>
    [assignStatement f ("(" ++ f.type ++ ") getSystemService(target, " ++ service ++ ")")]

/-- The members for the accepted fields. -/
def members (host : Host) (fields : List Field) : List Member :=
  [bindingMethod host "bindServices" [] (fields.flatMap bindStatements)]

end Bindery.Category.Service
