import InstanceCatalog.Text.CharName.Series

/-! # Names of characters from the radicals of ideographs on -/

namespace InstanceCatalog.Text.CharName

/-- The names of the characters from the radicals of ideographs on. -/
def fromRadical : List Series :=
  [⟨0x2E80, "CJK RADICAL ", "REPEAT,CLIFF,SECOND ONE,SECOND TWO,SECOND THREE,PERSON,BOX,TABLE,"
        ++ "KNIFE ONE,KNIFE TWO,DIVINATION,SEAL,SMALL ONE,SMALL TWO,LAME ONE,LAME TWO,LAME THREE,"
        ++ "LAME FOUR,SNAKE,THREAD,SNOUT ONE,SNOUT TWO,HEART ONE,HEART TWO,HAND,RAP"⟩,
   ⟨0x2E9B, "CJK RADICAL ", "CHOKE,SUN,MOON,DEATH,MOTHER,CIVILIAN,WATER ONE,WATER TWO,FIRE,"
        ++ "PAW ONE,PAW TWO,SIMPLIFIED HALF TREE TRUNK,COW,DOG,JADE,BOLT OF CLOTH,EYE,SPIRIT ONE,"
        ++ "SPIRIT TWO,BAMBOO,SILK,C-SIMPLIFIED SILK,NET ONE,NET TWO,NET THREE,NET FOUR,MESH,"
        ++ "SHEEP,RAM,EWE,OLD,BRUSH ONE,BRUSH TWO,MEAT,MORTAR,GRASS ONE,GRASS TWO,GRASS THREE,"
        ++ "TIGER,CLOTHES,WEST ONE,WEST TWO,C-SIMPLIFIED SEE,SIMPLIFIED HORN,HORN,"
        ++ "C-SIMPLIFIED SPEECH,C-SIMPLIFIED SHELL,FOOT,C-SIMPLIFIED CART,SIMPLIFIED WALK,"
        ++ "WALK ONE,WALK TWO,CITY,C-SIMPLIFIED GOLD,LONG ONE,LONG TWO,C-SIMPLIFIED LONG,"
        ++ "C-SIMPLIFIED GATE,MOUND ONE,MOUND TWO,RAIN,BLUE,C-SIMPLIFIED TANNED LEATHER,"
        ++ "C-SIMPLIFIED LEAF,C-SIMPLIFIED WIND,C-SIMPLIFIED FLY,EAT ONE,EAT TWO,EAT THREE,"
        ++ "C-SIMPLIFIED EAT,HEAD,C-SIMPLIFIED HORSE,BONE,GHOST,C-SIMPLIFIED FISH,"
        ++ "C-SIMPLIFIED BIRD,C-SIMPLIFIED SALT,SIMPLIFIED WHEAT,SIMPLIFIED YELLOW,"
        ++ "C-SIMPLIFIED FROG,J-SIMPLIFIED EVEN,C-SIMPLIFIED EVEN,J-SIMPLIFIED TOOTH,"
        ++ "C-SIMPLIFIED TOOTH,J-SIMPLIFIED DRAGON,C-SIMPLIFIED DRAGON,TURTLE,"
        ++ "J-SIMPLIFIED TURTLE,C-SIMPLIFIED TURTLE"⟩,
   ⟨0x2F00, "KANGXI RADICAL ", "ONE,LINE,DOT,SLASH,SECOND,HOOK,TWO,LID,MAN,LEGS,ENTER,EIGHT,"
        ++ "DOWN BOX,COVER,ICE,TABLE,OPEN BOX,KNIFE,POWER,WRAP,SPOON,RIGHT OPEN BOX,"
        ++ "HIDING ENCLOSURE,TEN,DIVINATION,SEAL,CLIFF,PRIVATE,AGAIN,MOUTH,ENCLOSURE,EARTH,"
        ++ "SCHOLAR,GO,GO SLOWLY,EVENING,BIG,WOMAN,CHILD,ROOF,INCH,SMALL,LAME,CORPSE,SPROUT,"
        ++ "MOUNTAIN,RIVER,WORK,ONESELF,TURBAN,DRY,SHORT THREAD,DOTTED CLIFF,LONG STRIDE,"
        ++ "TWO HANDS,SHOOT,BOW,SNOUT,BRISTLE,STEP,HEART,HALBERD,DOOR,HAND,BRANCH,RAP,SCRIPT,"
        ++ "DIPPER,AXE,SQUARE,NOT,SUN,SAY,MOON,TREE,LACK,STOP,DEATH,WEAPON,DO NOT,COMPARE,FUR,"
        ++ "CLAN,STEAM,WATER,FIRE,CLAW,FATHER,DOUBLE X,HALF TREE TRUNK,SLICE,FANG,COW,DOG,"
        ++ "PROFOUND,JADE,MELON,TILE,SWEET,LIFE,USE,FIELD,BOLT OF CLOTH,SICKNESS,DOTTED TENT,"
        ++ "WHITE,SKIN,DISH,EYE,SPEAR,ARROW,STONE,SPIRIT,TRACK,GRAIN,CAVE,STAND,BAMBOO,RICE,SILK,"
        ++ "JAR,NET,SHEEP,FEATHER,OLD,AND,PLOW,EAR,BRUSH,MEAT,MINISTER,SELF,ARRIVE,MORTAR,TONGUE,"
        ++ "OPPOSE,BOAT,STOPPING,COLOR,GRASS,TIGER,INSECT,BLOOD,WALK ENCLOSURE,CLOTHES,WEST,SEE,"
        ++ "HORN,SPEECH,VALLEY,BEAN,PIG,BADGER,SHELL,RED,RUN,FOOT,BODY,CART,BITTER,MORNING,WALK,"
        ++ "CITY,WINE,DISTINGUISH,VILLAGE,GOLD,LONG,GATE,MOUND,SLAVE,SHORT TAILED BIRD,RAIN,BLUE,"
        ++ "WRONG,FACE,LEATHER,TANNED LEATHER,LEEK,SOUND,LEAF,WIND,FLY,EAT,HEAD,FRAGRANT,HORSE,"
        ++ "BONE,TALL,HAIR,FIGHT,SACRIFICIAL WINE,CAULDRON,GHOST,FISH,BIRD,SALT,DEER,WHEAT,HEMP,"
        ++ "YELLOW,MILLET,BLACK,EMBROIDERY,FROG,TRIPOD,DRUM,RAT,NOSE,EVEN,TOOTH,DRAGON,TURTLE,"
        ++ "FLUTE"⟩,
   ⟨0x2FF0, "IDEOGRAPHIC DESCRIPTION CHARACTER ", "LEFT TO RIGHT,ABOVE TO BELOW,"
        ++ "LEFT TO MIDDLE AND RIGHT,ABOVE TO MIDDLE AND BELOW,FULL SURROUND,SURROUND FROM ABOVE,"
        ++ "SURROUND FROM BELOW,SURROUND FROM LEFT,SURROUND FROM UPPER LEFT,"
        ++ "SURROUND FROM UPPER RIGHT,SURROUND FROM LOWER LEFT,OVERLAID"⟩,
   ⟨0x3000, "", "IDEOGRAPHIC SPACE,IDEOGRAPHIC COMMA,IDEOGRAPHIC FULL STOP,DITTO MARK,"
        ++ "JAPANESE INDUSTRIAL STANDARD SYMBOL,IDEOGRAPHIC ITERATION MARK,"
        ++ "IDEOGRAPHIC CLOSING MARK,IDEOGRAPHIC NUMBER ZERO,LEFT ANGLE BRACKET,"
        ++ "RIGHT ANGLE BRACKET,LEFT DOUBLE ANGLE BRACKET,RIGHT DOUBLE ANGLE BRACKET,"
        ++ "LEFT CORNER BRACKET,RIGHT CORNER BRACKET,LEFT WHITE CORNER BRACKET,"
        ++ "RIGHT WHITE CORNER BRACKET,LEFT BLACK LENTICULAR BRACKET,"
        ++ "RIGHT BLACK LENTICULAR BRACKET,POSTAL MARK,GETA MARK,LEFT TORTOISE SHELL BRACKET,"
        ++ "RIGHT TORTOISE SHELL BRACKET,LEFT WHITE LENTICULAR BRACKET,"
        ++ "RIGHT WHITE LENTICULAR BRACKET,LEFT WHITE TORTOISE SHELL BRACKET,"
        ++ "RIGHT WHITE TORTOISE SHELL BRACKET,LEFT WHITE SQUARE BRACKET,"
        ++ "RIGHT WHITE SQUARE BRACKET,WAVE DASH,REVERSED DOUBLE PRIME QUOTATION MARK,"
        ++ "DOUBLE PRIME QUOTATION MARK,LOW DOUBLE PRIME QUOTATION MARK,POSTAL MARK FACE"⟩,
   ⟨0x3021, "HANGZHOU NUMERAL ", "ONE,TWO,THREE,FOUR,FIVE,SIX,SEVEN,EIGHT,NINE"⟩,
   ⟨0x302A, "IDEOGRAPHIC ", "LEVEL TONE MARK,RISING TONE MARK,DEPARTING TONE MARK,"
        ++ "ENTERING TONE MARK"⟩,
   ⟨0x302E, "", "HANGUL SINGLE DOT TONE MARK,HANGUL DOUBLE DOT TONE MARK,WAVY DASH"⟩,
   ⟨0x3031, "VERTICAL KANA REPEAT ", "MARK,WITH VOICED SOUND MARK,MARK UPPER HALF,"
        ++ "WITH VOICED SOUND MARK UPPER HALF,MARK LOWER HALF"⟩,
   ⟨0x3036, "", "CIRCLED POSTAL MARK,IDEOGRAPHIC TELEGRAPH LINE FEED SEPARATOR SYMBOL,"
        ++ "HANGZHOU NUMERAL TEN,HANGZHOU NUMERAL TWENTY,HANGZHOU NUMERAL THIRTY,"
        ++ "VERTICAL IDEOGRAPHIC ITERATION MARK,MASU MARK,PART ALTERNATION MARK,"
        ++ "IDEOGRAPHIC VARIATION INDICATOR,IDEOGRAPHIC HALF FILL SPACE"⟩,
   ⟨0x3041, "HIRAGANA LETTER ", "SMALL A,A,SMALL I,I,SMALL U,U,SMALL E,E,SMALL O,O,KA,GA,KI,GI,"
        ++ "KU,GU,KE,GE,KO,GO,SA,ZA,SI,ZI,SU,ZU,SE,ZE,SO,ZO,TA,DA,TI,DI,SMALL TU,TU,DU,TE,DE,TO,"
        ++ "DO,NA,NI,NU,NE,NO,HA,BA,PA,HI,BI,PI,HU,BU,PU,HE,BE,PE,HO,BO,PO,MA,MI,MU,ME,MO,"
        ++ "SMALL YA,YA,SMALL YU,YU,SMALL YO,YO,RA,RI,RU,RE,RO,SMALL WA,WA,WI,WE,WO,N,VU,"
        ++ "SMALL KA,SMALL KE"⟩,
   ⟨0x3099, "", "COMBINING KATAKANA-HIRAGANA VOICED SOUND MARK,"
        ++ "COMBINING KATAKANA-HIRAGANA SEMI-VOICED SOUND MARK,"
        ++ "KATAKANA-HIRAGANA VOICED SOUND MARK,KATAKANA-HIRAGANA SEMI-VOICED SOUND MARK,"
        ++ "HIRAGANA ITERATION MARK,HIRAGANA VOICED ITERATION MARK,HIRAGANA DIGRAPH YORI,"
        ++ "KATAKANA-HIRAGANA DOUBLE HYPHEN"⟩,
   ⟨0x30A1, "KATAKANA LETTER ", "SMALL A,A,SMALL I,I,SMALL U,U,SMALL E,E,SMALL O,O,KA,GA,KI,GI,"
        ++ "KU,GU,KE,GE,KO,GO,SA,ZA,SI,ZI,SU,ZU,SE,ZE,SO,ZO,TA,DA,TI,DI,SMALL TU,TU,DU,TE,DE,TO,"
        ++ "DO,NA,NI,NU,NE,NO,HA,BA,PA,HI,BI,PI,HU,BU,PU,HE,BE,PE,HO,BO,PO,MA,MI,MU,ME,MO,"
        ++ "SMALL YA,YA,SMALL YU,YU,SMALL YO,YO,RA,RI,RU,RE,RO,SMALL WA,WA,WI,WE,WO,N,VU,"
        ++ "SMALL KA,SMALL KE,VA,VI,VE,VO"⟩,
   ⟨0x30FB, "", "KATAKANA MIDDLE DOT,KATAKANA-HIRAGANA PROLONGED SOUND MARK,"
        ++ "KATAKANA ITERATION MARK,KATAKANA VOICED ITERATION MARK,KATAKANA DIGRAPH KOTO"⟩,
   ⟨0x3105, "BOPOMOFO LETTER ", "B,P,M,F,D,T,N,L,G,K,H,J,Q,X,ZH,CH,SH,R,Z,C,S,A,O,E,EH,AI,EI,AU,"
        ++ "OU,AN,EN,ANG,ENG,ER,I,U,IU,V,NG,GN,IH,O WITH DOT ABOVE,NN"⟩,
   ⟨0x3131, "HANGUL LETTER ", "KIYEOK,SSANGKIYEOK,KIYEOK-SIOS,NIEUN,NIEUN-CIEUC,NIEUN-HIEUH,"
        ++ "TIKEUT,SSANGTIKEUT,RIEUL,RIEUL-KIYEOK,RIEUL-MIEUM,RIEUL-PIEUP,RIEUL-SIOS,"
        ++ "RIEUL-THIEUTH,RIEUL-PHIEUPH,RIEUL-HIEUH,MIEUM,PIEUP,SSANGPIEUP,PIEUP-SIOS,SIOS,"
        ++ "SSANGSIOS,IEUNG,CIEUC,SSANGCIEUC,CHIEUCH,KHIEUKH,THIEUTH,PHIEUPH,HIEUH,A,AE,YA,YAE,"
        ++ "EO,E,YEO,YE,O,WA,WAE,OE,YO,U,WEO,WE,WI,YU,EU,YI,I"⟩,
   ⟨0x3164, "HANGUL ", "FILLER"⟩,
   ⟨0x3165, "HANGUL LETTER ", "SSANGNIEUN,NIEUN-TIKEUT,NIEUN-SIOS,NIEUN-PANSIOS,"
        ++ "RIEUL-KIYEOK-SIOS,RIEUL-TIKEUT,RIEUL-PIEUP-SIOS,RIEUL-PANSIOS,RIEUL-YEORINHIEUH,"
        ++ "MIEUM-PIEUP,MIEUM-SIOS,MIEUM-PANSIOS,KAPYEOUNMIEUM,PIEUP-KIYEOK,PIEUP-TIKEUT,"
        ++ "PIEUP-SIOS-KIYEOK,PIEUP-SIOS-TIKEUT,PIEUP-CIEUC,PIEUP-THIEUTH,KAPYEOUNPIEUP,"
        ++ "KAPYEOUNSSANGPIEUP,SIOS-KIYEOK,SIOS-NIEUN,SIOS-TIKEUT,SIOS-PIEUP,SIOS-CIEUC,PANSIOS,"
        ++ "SSANGIEUNG,YESIEUNG,YESIEUNG-SIOS,YESIEUNG-PANSIOS,KAPYEOUNPHIEUPH,SSANGHIEUH,"
        ++ "YEORINHIEUH,YO-YA,YO-YAE,YO-I,YU-YEO,YU-YE,YU-I,ARAEA,ARAEAE"⟩,
   ⟨0x3190, "IDEOGRAPHIC ANNOTATION ", "LINKING MARK,REVERSE MARK,ONE MARK,TWO MARK,THREE MARK,"
        ++ "FOUR MARK,TOP MARK,MIDDLE MARK,BOTTOM MARK,FIRST MARK,SECOND MARK,THIRD MARK,"
        ++ "FOURTH MARK,HEAVEN MARK,EARTH MARK,MAN MARK"⟩,
   ⟨0x31A0, "BOPOMOFO LETTER ", "BU,ZI,JI,GU,EE,ENN,OO,ONN,IR,ANN,INN,UNN,IM,NGG,AINN,AUNN,AM,OM,"
        ++ "ONG,INNN"⟩,
   ⟨0x31B4, "BOPOMOFO ", "FINAL LETTER P,FINAL LETTER T,FINAL LETTER K,FINAL LETTER H,LETTER GH,"
        ++ "LETTER LH,LETTER ZY,FINAL LETTER G,LETTER GW,LETTER KW,LETTER OE,LETTER AH"⟩,
   ⟨0x31C0, "CJK STROKE ", "T,WG,XG,BXG,SW,HZZ,HZG,HP,HZWG,SZWG,HZT,HZZP,HPWG,HZW,HZZZ,N,H,S,P,"
        ++ "SP,D,HZ,HG,SZ,SWZ,ST,SG,PD,PZ,TN,SZZ,SWG,HXWG,HZZZG,PG,Q"⟩,
   ⟨0x31F0, "KATAKANA LETTER SMALL ", "KU,SI,SU,TO,NU,HA,HI,HU,HE,HO,MU,RA,RI,RU,RE,RO"⟩,
   ⟨0x3200, "PARENTHESIZED HANGUL ", "KIYEOK,NIEUN,TIKEUT,RIEUL,MIEUM,PIEUP,SIOS,IEUNG,CIEUC,"
        ++ "CHIEUCH,KHIEUKH,THIEUTH,PHIEUPH,HIEUH,KIYEOK A,NIEUN A,TIKEUT A,RIEUL A,MIEUM A,"
        ++ "PIEUP A,SIOS A,IEUNG A,CIEUC A,CHIEUCH A,KHIEUKH A,THIEUTH A,PHIEUPH A,HIEUH A,"
        ++ "CIEUC U"⟩,
   ⟨0x321D, "PARENTHESIZED KOREAN CHARACTER ", "OJEON,O HU"⟩,
   ⟨0x3220, "PARENTHESIZED IDEOGRAPH ", "ONE,TWO,THREE,FOUR,FIVE,SIX,SEVEN,EIGHT,NINE,TEN,MOON,"
        ++ "FIRE,WATER,WOOD,METAL,EARTH,SUN,STOCK,HAVE,SOCIETY,NAME,SPECIAL,FINANCIAL,"
        ++ "CONGRATULATION,LABOR,REPRESENT,CALL,STUDY,SUPERVISE,ENTERPRISE,RESOURCE,ALLIANCE,"
        ++ "FESTIVAL,REST,SELF,REACH"⟩,
   ⟨0x3244, "CIRCLED IDEOGRAPH ", "QUESTION,KINDERGARTEN,SCHOOL,KOTO"⟩,
   ⟨0x3248, "CIRCLED NUMBER ", "TEN ON BLACK SQUARE,TWENTY ON BLACK SQUARE,"
        ++ "THIRTY ON BLACK SQUARE,FORTY ON BLACK SQUARE,FIFTY ON BLACK SQUARE,"
        ++ "SIXTY ON BLACK SQUARE,SEVENTY ON BLACK SQUARE,EIGHTY ON BLACK SQUARE"⟩,
   ⟨0x3250, "PARTNERSHIP ", "SIGN"⟩,
   ⟨0x3251, "CIRCLED NUMBER TWENTY ", "ONE,TWO,THREE,FOUR,FIVE,SIX,SEVEN,EIGHT,NINE"⟩,
   ⟨0x325A, "CIRCLED NUMBER ", "THIRTY,THIRTY ONE,THIRTY TWO,THIRTY THREE,THIRTY FOUR,THIRTY FIVE"⟩,
   ⟨0x3260, "CIRCLED HANGUL ", "KIYEOK,NIEUN,TIKEUT,RIEUL,MIEUM,PIEUP,SIOS,IEUNG,CIEUC,CHIEUCH,"
        ++ "KHIEUKH,THIEUTH,PHIEUPH,HIEUH,KIYEOK A,NIEUN A,TIKEUT A,RIEUL A,MIEUM A,PIEUP A,"
        ++ "SIOS A,IEUNG A,CIEUC A,CHIEUCH A,KHIEUKH A,THIEUTH A,PHIEUPH A,HIEUH A"⟩,
   ⟨0x327C, "", "CIRCLED KOREAN CHARACTER CHAMKO,CIRCLED KOREAN CHARACTER JUEUI,"
        ++ "CIRCLED HANGUL IEUNG U,KOREAN STANDARD SYMBOL"⟩,
   ⟨0x3280, "CIRCLED IDEOGRAPH ", "ONE,TWO,THREE,FOUR,FIVE,SIX,SEVEN,EIGHT,NINE,TEN,MOON,FIRE,"
        ++ "WATER,WOOD,METAL,EARTH,SUN,STOCK,HAVE,SOCIETY,NAME,SPECIAL,FINANCIAL,CONGRATULATION,"
        ++ "LABOR,SECRET,MALE,FEMALE,SUITABLE,EXCELLENT,PRINT,ATTENTION,ITEM,REST,COPY,CORRECT,"
        ++ "HIGH,CENTRE,LOW,LEFT,RIGHT,MEDICINE,RELIGION,STUDY,SUPERVISE,ENTERPRISE,RESOURCE,"
        ++ "ALLIANCE,NIGHT"⟩,
   ⟨0x32B1, "CIRCLED NUMBER ", "THIRTY SIX,THIRTY SEVEN,THIRTY EIGHT,THIRTY NINE,FORTY,FORTY ONE,"
        ++ "FORTY TWO,FORTY THREE,FORTY FOUR,FORTY FIVE,FORTY SIX,FORTY SEVEN,FORTY EIGHT,"
        ++ "FORTY NINE,FIFTY"⟩,
   ⟨0x32C0, "IDEOGRAPHIC TELEGRAPH SYMBOL FOR ", "JANUARY,FEBRUARY,MARCH,APRIL,MAY,JUNE,JULY,"
        ++ "AUGUST,SEPTEMBER,OCTOBER,NOVEMBER,DECEMBER"⟩,
   ⟨0x32CC, "", "SQUARE HG,SQUARE ERG,SQUARE EV,LIMITED LIABILITY SIGN"⟩,
   ⟨0x32D0, "CIRCLED KATAKANA ", "A,I,U,E,O,KA,KI,KU,KE,KO,SA,SI,SU,SE,SO,TA,TI,TU,TE,TO,NA,NI,"
        ++ "NU,NE,NO,HA,HI,HU,HE,HO,MA,MI,MU,ME,MO,YA,YU,YO,RA,RI,RU,RE,RO,WA,WI,WE,WO"⟩,
   ⟨0x32FF, "SQUARE ", "ERA NAME REIWA,APAATO,ARUHUA,ANPEA,AARU,ININGU,INTI,UON,ESUKUUDO,EEKAA,"
        ++ "ONSU,OOMU,KAIRI,KARATTO,KARORII,GARON,GANMA,GIGA,GINII,KYURII,GIRUDAA,KIRO,"
        ++ "KIROGURAMU,KIROMEETORU,KIROWATTO,GURAMU,GURAMUTON,KURUZEIRO,KUROONE,KEESU,KORUNA,"
        ++ "KOOPO,SAIKURU,SANTIIMU,SIRINGU,SENTI,SENTO,DAASU,DESI,DORU,TON,NANO,NOTTO,HAITU,"
        ++ "PAASENTO,PAATU,BAARERU,PIASUTORU,PIKURU,PIKO,BIRU,HUARADDO,HUIITO,BUSSYERU,HURAN,"
        ++ "HEKUTAARU,PESO,PENIHI,HERUTU,PENSU,PEEZI,BEETA,POINTO,BORUTO,HON,PONDO,HOORU,HOON,"
        ++ "MAIKURO,MAIRU,MAHHA,MARUKU,MANSYON,MIKURON,MIRI,MIRIBAARU,MEGA,MEGATON,MEETORU,YAADO,"
        ++ "YAARU,YUAN,RITTORU,RIRA,RUPII,RUUBURU,REMU,RENTOGEN,WATTO"⟩,
   ⟨0x3358, "IDEOGRAPHIC TELEGRAPH SYMBOL FOR HOUR ", "ZERO,ONE,TWO,THREE,FOUR,FIVE,SIX,SEVEN,"
        ++ "EIGHT,NINE,TEN,ELEVEN,TWELVE,THIRTEEN,FOURTEEN,FIFTEEN,SIXTEEN,SEVENTEEN,EIGHTEEN,"
        ++ "NINETEEN,TWENTY,TWENTY-ONE,TWENTY-TWO,TWENTY-THREE,TWENTY-FOUR"⟩,
   ⟨0x3371, "SQUARE ", "HPA,DA,AU,BAR,OV,PC,DM,DM SQUARED,DM CUBED,IU,ERA NAME HEISEI,"
        ++ "ERA NAME SYOUWA,ERA NAME TAISYOU,ERA NAME MEIZI,CORPORATION,PA AMPS,NA,MU A,MA,KA,KB,"
        ++ "MB,GB,CAL,KCAL,PF,NF,MU F,MU G,MG,KG,HZ,KHZ,MHZ,GHZ,THZ,MU L,ML,DL,KL,FM,NM,MU M,MM,"
        ++ "CM,KM,MM SQUARED,CM SQUARED,M SQUARED,KM SQUARED,MM CUBED,CM CUBED,M CUBED,KM CUBED,"
        ++ "M OVER S,M OVER S SQUARED,PA,KPA,MPA,GPA,RAD,RAD OVER S,RAD OVER S SQUARED,PS,NS,"
        ++ "MU S,MS,PV,NV,MU V,MV,KV,MV MEGA,PW,NW,MU W,MW,KW,MW MEGA,K OHM,M OHM,AM,BQ,CC,CD,"
        ++ "C OVER KG,CO,DB,GY,HA,HP,IN,KK,KM CAPITAL,KT,LM,LN,LOG,LX,MB SMALL,MIL,MOL,PH,PM,PPM,"
        ++ "PR,SR,SV,WB,V OVER M,A OVER M"⟩,
   ⟨0x33E0, "IDEOGRAPHIC TELEGRAPH SYMBOL FOR DAY ", "ONE,TWO,THREE,FOUR,FIVE,SIX,SEVEN,EIGHT,"
        ++ "NINE,TEN,ELEVEN,TWELVE,THIRTEEN,FOURTEEN,FIFTEEN,SIXTEEN,SEVENTEEN,EIGHTEEN,NINETEEN,"
        ++ "TWENTY,TWENTY-ONE,TWENTY-TWO,TWENTY-THREE,TWENTY-FOUR,TWENTY-FIVE,TWENTY-SIX,"
        ++ "TWENTY-SEVEN,TWENTY-EIGHT,TWENTY-NINE,THIRTY,THIRTY-ONE"⟩,
   ⟨0x33FF, "SQUARE ", "GAL"⟩,
   ⟨0x4DC0, "HEXAGRAM FOR ", "THE CREATIVE HEAVEN,THE RECEPTIVE EARTH,"
        ++ "DIFFICULTY AT THE BEGINNING,YOUTHFUL FOLLY,WAITING,CONFLICT,THE ARMY,"
        ++ "HOLDING TOGETHER,SMALL TAMING,TREADING,PEACE,STANDSTILL,FELLOWSHIP,GREAT POSSESSION,"
        ++ "MODESTY,ENTHUSIASM,FOLLOWING,WORK ON THE DECAYED,APPROACH,CONTEMPLATION,"
        ++ "BITING THROUGH,GRACE,SPLITTING APART,RETURN,INNOCENCE,GREAT TAMING,MOUTH CORNERS,"
        ++ "GREAT PREPONDERANCE,THE ABYSMAL WATER,THE CLINGING FIRE,INFLUENCE,DURATION,RETREAT,"
        ++ "GREAT POWER,PROGRESS,DARKENING OF THE LIGHT,THE FAMILY,OPPOSITION,OBSTRUCTION,"
        ++ "DELIVERANCE,DECREASE,INCREASE,BREAKTHROUGH,COMING TO MEET,GATHERING TOGETHER,"
        ++ "PUSHING UPWARD,OPPRESSION,THE WELL,REVOLUTION,THE CAULDRON,THE AROUSING THUNDER,"
        ++ "THE KEEPING STILL MOUNTAIN,DEVELOPMENT,THE MARRYING MAIDEN,ABUNDANCE,THE WANDERER,"
        ++ "THE GENTLE WIND,THE JOYOUS LAKE,DISPERSION,LIMITATION,INNER TRUTH,"
        ++ "SMALL PREPONDERANCE,AFTER COMPLETION,BEFORE COMPLETION"⟩,
   ⟨0xA000, "YI SYLLABLE ", "IT,IX,I,IP,IET,IEX,IE,IEP,AT,AX,A,AP,UOX,UO,UOP,OT,OX,O,OP,EX,E,WU,"
        ++ "BIT,BIX,BI,BIP,BIET,BIEX,BIE,BIEP,BAT,BAX,BA,BAP,BUOX,BUO,BUOP,BOT,BOX,BO,BOP,BEX,BE,"
        ++ "BEP,BUT,BUX,BU,BUP,BURX,BUR,BYT,BYX,BY,BYP,BYRX,BYR,PIT,PIX,PI,PIP,PIEX,PIE,PIEP,PAT,"
        ++ "PAX,PA,PAP,PUOX,PUO,PUOP,POT,POX,PO,POP,PUT,PUX,PU,PUP,PURX,PUR,PYT,PYX,PY,PYP,PYRX,"
        ++ "PYR,BBIT,BBIX,BBI,BBIP,BBIET,BBIEX,BBIE,BBIEP,BBAT,BBAX,BBA,BBAP,BBUOX,BBUO,BBUOP,"
        ++ "BBOT,BBOX,BBO,BBOP,BBEX,BBE,BBEP,BBUT,BBUX,BBU,BBUP,BBURX,BBUR,BBYT,BBYX,BBY,BBYP,"
        ++ "NBIT,NBIX,NBI,NBIP,NBIEX,NBIE,NBIEP,NBAT,NBAX,NBA,NBAP,NBOT,NBOX,NBO,NBOP,NBUT,NBUX,"
        ++ "NBU,NBUP,NBURX,NBUR,NBYT,NBYX,NBY,NBYP,NBYRX,NBYR,HMIT,HMIX,HMI,HMIP,HMIEX,HMIE,"
        ++ "HMIEP,HMAT,HMAX,HMA,HMAP,HMUOX,HMUO,HMUOP,HMOT,HMOX,HMO,HMOP,HMUT,HMUX,HMU,HMUP,"
        ++ "HMURX,HMUR,HMYX,HMY,HMYP,HMYRX,HMYR,MIT,MIX,MI,MIP,MIEX,MIE,MIEP,MAT,MAX,MA,MAP,MUOT,"
        ++ "MUOX,MUO,MUOP,MOT,MOX,MO,MOP,MEX,ME,MUT,MUX,MU,MUP,MURX,MUR,MYT,MYX,MY,MYP,FIT,FIX,"
        ++ "FI,FIP,FAT,FAX,FA,FAP,FOX,FO,FOP,FUT,FUX,FU,FUP,FURX,FUR,FYT,FYX,FY,FYP,VIT,VIX,VI,"
        ++ "VIP,VIET,VIEX,VIE,VIEP,VAT,VAX,VA,VAP,VOT,VOX,VO,VOP,VEX,VEP,VUT,VUX,VU,VUP,VURX,VUR,"
        ++ "VYT,VYX,VY,VYP,VYRX,VYR,DIT,DIX,DI,DIP,DIEX,DIE,DIEP,DAT,DAX,DA,DAP,DUOX,DUO,DOT,DOX,"
        ++ "DO,DOP,DEX,DE,DEP,DUT,DUX,DU,DUP,DURX,DUR,TIT,TIX,TI,TIP,TIEX,TIE,TIEP,TAT,TAX,TA,"
        ++ "TAP,TUOT,TUOX,TUO,TUOP,TOT,TOX,TO,TOP,TEX,TE,TEP,TUT,TUX,TU,TUP,TURX,TUR,DDIT,DDIX,"
        ++ "DDI,DDIP,DDIEX,DDIE,DDIEP,DDAT,DDAX,DDA,DDAP,DDUOX,DDUO,DDUOP,DDOT,DDOX,DDO,DDOP,"
        ++ "DDEX,DDE,DDEP,DDUT,DDUX,DDU,DDUP,DDURX,DDUR,NDIT,NDIX,NDI,NDIP,NDIEX,NDIE,NDAT,NDAX,"
        ++ "NDA,NDAP,NDOT,NDOX,NDO,NDOP,NDEX,NDE,NDEP,NDUT,NDUX,NDU,NDUP,NDURX,NDUR,HNIT,HNIX,"
        ++ "HNI,HNIP,HNIET,HNIEX,HNIE,HNIEP,HNAT,HNAX,HNA,HNAP,HNUOX,HNUO,HNOT,HNOX,HNOP,HNEX,"
        ++ "HNE,HNEP,HNUT,NIT,NIX,NI,NIP,NIEX,NIE,NIEP,NAX,NA,NAP,NUOX,NUO,NUOP,NOT,NOX,NO,NOP,"
        ++ "NEX,NE,NEP,NUT,NUX,NU,NUP,NURX,NUR,HLIT,HLIX,HLI,HLIP,HLIEX,HLIE,HLIEP,HLAT,HLAX,HLA,"
        ++ "HLAP,HLUOX,HLUO,HLUOP,HLOX,HLO,HLOP,HLEX,HLE,HLEP,HLUT,HLUX,HLU,HLUP,HLURX,HLUR,HLYT,"
        ++ "HLYX,HLY,HLYP,HLYRX,HLYR,LIT,LIX,LI,LIP,LIET,LIEX,LIE,LIEP,LAT,LAX,LA,LAP,LUOT,LUOX,"
        ++ "LUO,LUOP,LOT,LOX,LO,LOP,LEX,LE,LEP,LUT,LUX,LU,LUP,LURX,LUR,LYT,LYX,LY,LYP,LYRX,LYR,"
        ++ "GIT,GIX,GI,GIP,GIET,GIEX,GIE,GIEP,GAT,GAX,GA,GAP,GUOT,GUOX,GUO,GUOP,GOT,GOX,GO,GOP,"
        ++ "GET,GEX,GE,GEP,GUT,GUX,GU,GUP,GURX,GUR,KIT,KIX,KI,KIP,KIEX,KIE,KIEP,KAT,KAX,KA,KAP,"
        ++ "KUOX,KUO,KUOP,KOT,KOX,KO,KOP,KET,KEX,KE,KEP,KUT,KUX,KU,KUP,KURX,KUR,GGIT,GGIX,GGI,"
        ++ "GGIEX,GGIE,GGIEP,GGAT,GGAX,GGA,GGAP,GGUOT,GGUOX,GGUO,GGUOP,GGOT,GGOX,GGO,GGOP,GGET,"
        ++ "GGEX,GGE,GGEP,GGUT,GGUX,GGU,GGUP,GGURX,GGUR,MGIEX,MGIE,MGAT,MGAX,MGA,MGAP,MGUOX,MGUO,"
        ++ "MGUOP,MGOT,MGOX,MGO,MGOP,MGEX,MGE,MGEP,MGUT,MGUX,MGU,MGUP,MGURX,MGUR,HXIT,HXIX,HXI,"
        ++ "HXIP,HXIET,HXIEX,HXIE,HXIEP,HXAT,HXAX,HXA,HXAP,HXUOT,HXUOX,HXUO,HXUOP,HXOT,HXOX,HXO,"
        ++ "HXOP,HXEX,HXE,HXEP,NGIEX,NGIE,NGIEP,NGAT,NGAX,NGA,NGAP,NGUOT,NGUOX,NGUO,NGOT,NGOX,"
        ++ "NGO,NGOP,NGEX,NGE,NGEP,HIT,HIEX,HIE,HAT,HAX,HA,HAP,HUOT,HUOX,HUO,HUOP,HOT,HOX,HO,HOP,"
        ++ "HEX,HE,HEP,WAT,WAX,WA,WAP,WUOX,WUO,WUOP,WOX,WO,WOP,WEX,WE,WEP,ZIT,ZIX,ZI,ZIP,ZIEX,"
        ++ "ZIE,ZIEP,ZAT,ZAX,ZA,ZAP,ZUOX,ZUO,ZUOP,ZOT,ZOX,ZO,ZOP,ZEX,ZE,ZEP,ZUT,ZUX,ZU,ZUP,ZURX,"
        ++ "ZUR,ZYT,ZYX,ZY,ZYP,ZYRX,ZYR,CIT,CIX,CI,CIP,CIET,CIEX,CIE,CIEP,CAT,CAX,CA,CAP,CUOX,"
        ++ "CUO,CUOP,COT,COX,CO,COP,CEX,CE,CEP,CUT,CUX,CU,CUP,CURX,CUR,CYT,CYX,CY,CYP,CYRX,CYR,"
        ++ "ZZIT,ZZIX,ZZI,ZZIP,ZZIET,ZZIEX,ZZIE,ZZIEP,ZZAT,ZZAX,ZZA,ZZAP,ZZOX,ZZO,ZZOP,ZZEX,ZZE,"
        ++ "ZZEP,ZZUX,ZZU,ZZUP,ZZURX,ZZUR,ZZYT,ZZYX,ZZY,ZZYP,ZZYRX,ZZYR,NZIT,NZIX,NZI,NZIP,NZIEX,"
        ++ "NZIE,NZIEP,NZAT,NZAX,NZA,NZAP,NZUOX,NZUO,NZOX,NZOP,NZEX,NZE,NZUX,NZU,NZUP,NZURX,NZUR,"
        ++ "NZYT,NZYX,NZY,NZYP,NZYRX,NZYR,SIT,SIX,SI,SIP,SIEX,SIE,SIEP,SAT,SAX,SA,SAP,SUOX,SUO,"
        ++ "SUOP,SOT,SOX,SO,SOP,SEX,SE,SEP,SUT,SUX,SU,SUP,SURX,SUR,SYT,SYX,SY,SYP,SYRX,SYR,SSIT,"
        ++ "SSIX,SSI,SSIP,SSIEX,SSIE,SSIEP,SSAT,SSAX,SSA,SSAP,SSOT,SSOX,SSO,SSOP,SSEX,SSE,SSEP,"
        ++ "SSUT,SSUX,SSU,SSUP,SSYT,SSYX,SSY,SSYP,SSYRX,SSYR,ZHAT,ZHAX,ZHA,ZHAP,ZHUOX,ZHUO,ZHUOP,"
        ++ "ZHOT,ZHOX,ZHO,ZHOP,ZHET,ZHEX,ZHE,ZHEP,ZHUT,ZHUX,ZHU,ZHUP,ZHURX,ZHUR,ZHYT,ZHYX,ZHY,"
        ++ "ZHYP,ZHYRX,ZHYR,CHAT,CHAX,CHA,CHAP,CHUOT,CHUOX,CHUO,CHUOP,CHOT,CHOX,CHO,CHOP,CHET,"
        ++ "CHEX,CHE,CHEP,CHUX,CHU,CHUP,CHURX,CHUR,CHYT,CHYX,CHY,CHYP,CHYRX,CHYR,RRAX,RRA,RRUOX,"
        ++ "RRUO,RROT,RROX,RRO,RROP,RRET,RREX,RRE,RREP,RRUT,RRUX,RRU,RRUP,RRURX,RRUR,RRYT,RRYX,"
        ++ "RRY,RRYP,RRYRX,RRYR,NRAT,NRAX,NRA,NRAP,NROX,NRO,NROP,NRET,NREX,NRE,NREP,NRUT,NRUX,"
        ++ "NRU,NRUP,NRURX,NRUR,NRYT,NRYX,NRY,NRYP,NRYRX,NRYR,SHAT,SHAX,SHA,SHAP,SHUOX,SHUO,"
        ++ "SHUOP,SHOT,SHOX,SHO,SHOP,SHET,SHEX,SHE,SHEP,SHUT,SHUX,SHU,SHUP,SHURX,SHUR,SHYT,SHYX,"
        ++ "SHY,SHYP,SHYRX,SHYR,RAT,RAX,RA,RAP,RUOX,RUO,RUOP,ROT,ROX,RO,ROP,REX,RE,REP,RUT,RUX,"
        ++ "RU,RUP,RURX,RUR,RYT,RYX,RY,RYP,RYRX,RYR,JIT,JIX,JI,JIP,JIET,JIEX,JIE,JIEP,JUOT,JUOX,"
        ++ "JUO,JUOP,JOT,JOX,JO,JOP,JUT,JUX,JU,JUP,JURX,JUR,JYT,JYX,JY,JYP,JYRX,JYR,QIT,QIX,QI,"
        ++ "QIP,QIET,QIEX,QIE,QIEP,QUOT,QUOX,QUO,QUOP,QOT,QOX,QO,QOP,QUT,QUX,QU,QUP,QURX,QUR,QYT,"
        ++ "QYX,QY,QYP,QYRX,QYR,JJIT,JJIX,JJI,JJIP,JJIET,JJIEX,JJIE,JJIEP,JJUOX,JJUO,JJUOP,JJOT,"
        ++ "JJOX,JJO,JJOP,JJUT,JJUX,JJU,JJUP,JJURX,JJUR,JJYT,JJYX,JJY,JJYP,NJIT,NJIX,NJI,NJIP,"
        ++ "NJIET,NJIEX,NJIE,NJIEP,NJUOX,NJUO,NJOT,NJOX,NJO,NJOP,NJUX,NJU,NJUP,NJURX,NJUR,NJYT,"
        ++ "NJYX,NJY,NJYP,NJYRX,NJYR,NYIT,NYIX,NYI,NYIP,NYIET,NYIEX,NYIE,NYIEP,NYUOX,NYUO,NYUOP,"
        ++ "NYOT,NYOX,NYO,NYOP,NYUT,NYUX,NYU,NYUP,XIT,XIX,XI,XIP,XIET,XIEX,XIE,XIEP,XUOX,XUO,XOT,"
        ++ "XOX,XO,XOP,XYT,XYX,XY,XYP,XYRX,XYR,YIT,YIX,YI,YIP,YIET,YIEX,YIE,YIEP,YUOT,YUOX,YUO,"
        ++ "YUOP,YOT,YOX,YO,YOP,YUT,YUX,YU,YUP,YURX,YUR,YYT,YYX,YY,YYP,YYRX,YYR"⟩,
   ⟨0xA490, "YI RADICAL ", "QOT,LI,KIT,NYIP,CYP,SSI,GGOP,GEP,MI,HXIT,LYR,BBUT,MOP,YO,PUT,HXUO,"
        ++ "TAT,GA,ZUP,CYT,DDUR,BUR,GGUO,NYOP,TU,OP,JJUT,ZOT,PYT,HMO,YIT,VUR,SHY,VEP,ZA,JO,NZUP,"
        ++ "JJY,GOT,JJIE,WO,DU,SHUR,LIE,CY,CUOP,CIP,HXOP,SHAT,ZUR,SHOP,CHE,ZZIET,NBIE,KE"⟩,
   ⟨0xA4D0, "LISU LETTER ", "BA,PA,PHA,DA,TA,THA,GA,KA,KHA,JA,CA,CHA,DZA,TSA,TSHA,MA,NA,LA,SA,"
        ++ "ZHA,ZA,NGA,HA,XA,HHA,FA,WA,SHA,YA,GHA,A,AE,E,EU,I,O,U,UE,UH,OE,TONE MYA TI,"
        ++ "TONE NA PO,TONE MYA CYA,TONE MYA BO,TONE MYA NA,TONE MYA JEU"⟩,
   ⟨0xA4FE, "LISU PUNCTUATION ", "COMMA,FULL STOP"⟩,
   ⟨0xA500, "VAI SYLLABLE ", "EE,EEN,HEE,WEE,WEEN,PEE,BHEE,BEE,MBEE,KPEE,MGBEE,GBEE,FEE,VEE,TEE,"
        ++ "THEE,DHEE,DHHEE,LEE,REE,DEE,NDEE,SEE,SHEE,ZEE,ZHEE,CEE,JEE,NJEE,YEE,KEE,NGGEE,GEE,"
        ++ "MEE,NEE,NYEE,I,IN,HI,HIN,WI,WIN,PI,BHI,BI,MBI,KPI,MGBI,GBI,FI,VI,TI,THI,DHI,DHHI,LI,"
        ++ "RI,DI,NDI,SI,SHI,ZI,ZHI,CI,JI,NJI,YI,KI,NGGI,GI,MI,NI,NYI,A,AN,NGAN,HA,HAN,WA,WAN,PA,"
        ++ "BHA,BA,MBA,KPA,KPAN,MGBA,GBA,FA,VA,TA,THA,DHA,DHHA,LA,RA,DA,NDA,SA,SHA,ZA,ZHA,CA,JA,"
        ++ "NJA,YA,KA,KAN,NGGA,GA,MA,NA,NYA,OO,OON,HOO,WOO,WOON,POO,BHOO,BOO,MBOO,KPOO,MGBOO,"
        ++ "GBOO,FOO,VOO,TOO,THOO,DHOO,DHHOO,LOO,ROO,DOO,NDOO,SOO,SHOO,ZOO,ZHOO,COO,JOO,NJOO,YOO,"
        ++ "KOO,NGGOO,GOO,MOO,NOO,NYOO,U,UN,HU,HUN,WU,WUN,PU,BHU,BU,MBU,KPU,MGBU,GBU,FU,VU,TU,"
        ++ "THU,DHU,DHHU,LU,RU,DU,NDU,SU,SHU,ZU,ZHU,CU,JU,NJU,YU,KU,NGGU,GU,MU,NU,NYU,O,ON,NGON,"
        ++ "HO,HON,WO,WON,PO,BHO,BO,MBO,KPO,MGBO,GBO,GBON,FO,VO,TO,THO,DHO,DHHO,LO,RO,DO,NDO,SO,"
        ++ "SHO,ZO,ZHO,CO,JO,NJO,YO,KO,NGGO,GO,MO,NO,NYO,E,EN,NGEN,HE,HEN,WE,WEN,PE,BHE,BE,MBE,"
        ++ "KPE,KPEN,MGBE,GBE,GBEN,FE,VE,TE,THE,DHE,DHHE,LE,RE,DE,NDE,SE,SHE,ZE,ZHE,CE,JE,NJE,YE,"
        ++ "KE,NGGE,NGGEN,GE,GEN,ME,NE,NYE,NG,LENGTHENER"⟩,
   ⟨0xA60D, "VAI ", "COMMA,FULL STOP,QUESTION MARK,SYLLABLE NDOLE FA,SYLLABLE NDOLE KA,"
        ++ "SYLLABLE NDOLE SOO"⟩,
   ⟨0xA613, "VAI SYMBOL ", "FEENG,KEENG,TING,NII,BANG,FAA,TAA,DANG,DOONG,KUNG,TONG,DO-O,JONG"⟩,
   ⟨0xA620, "VAI DIGIT ", "ZERO,ONE,TWO,THREE,FOUR,FIVE,SIX,SEVEN,EIGHT,NINE"⟩,
   ⟨0xA62A, "VAI SYLLABLE NDOLE ", "MA,DO"⟩,
   ⟨0xA640, "CYRILLIC ", "CAPITAL LETTER ZEMLYA,SMALL LETTER ZEMLYA,CAPITAL LETTER DZELO,"
        ++ "SMALL LETTER DZELO,CAPITAL LETTER REVERSED DZE,SMALL LETTER REVERSED DZE,"
        ++ "CAPITAL LETTER IOTA,SMALL LETTER IOTA,CAPITAL LETTER DJERV,SMALL LETTER DJERV,"
        ++ "CAPITAL LETTER MONOGRAPH UK,SMALL LETTER MONOGRAPH UK,CAPITAL LETTER BROAD OMEGA,"
        ++ "SMALL LETTER BROAD OMEGA,CAPITAL LETTER NEUTRAL YER,SMALL LETTER NEUTRAL YER,"
        ++ "CAPITAL LETTER YERU WITH BACK YER,SMALL LETTER YERU WITH BACK YER,"
        ++ "CAPITAL LETTER IOTIFIED YAT,SMALL LETTER IOTIFIED YAT,CAPITAL LETTER REVERSED YU,"
        ++ "SMALL LETTER REVERSED YU,CAPITAL LETTER IOTIFIED A,SMALL LETTER IOTIFIED A,"
        ++ "CAPITAL LETTER CLOSED LITTLE YUS,SMALL LETTER CLOSED LITTLE YUS,"
        ++ "CAPITAL LETTER BLENDED YUS,SMALL LETTER BLENDED YUS,"
        ++ "CAPITAL LETTER IOTIFIED CLOSED LITTLE YUS,SMALL LETTER IOTIFIED CLOSED LITTLE YUS,"
        ++ "CAPITAL LETTER YN,SMALL LETTER YN,CAPITAL LETTER REVERSED TSE,"
        ++ "SMALL LETTER REVERSED TSE,CAPITAL LETTER SOFT DE,SMALL LETTER SOFT DE,"
        ++ "CAPITAL LETTER SOFT EL,SMALL LETTER SOFT EL,CAPITAL LETTER SOFT EM,"
        ++ "SMALL LETTER SOFT EM,CAPITAL LETTER MONOCULAR O,SMALL LETTER MONOCULAR O,"
        ++ "CAPITAL LETTER BINOCULAR O,SMALL LETTER BINOCULAR O,"
        ++ "CAPITAL LETTER DOUBLE MONOCULAR O,SMALL LETTER DOUBLE MONOCULAR O,"
        ++ "LETTER MULTIOCULAR O"⟩,
   ⟨0xA66F, "COMBINING CYRILLIC ", "VZMET,TEN MILLIONS SIGN,HUNDRED MILLIONS SIGN,"
        ++ "THOUSAND MILLIONS SIGN"⟩,
   ⟨0xA673, "SLAVONIC ", "ASTERISK"⟩,
   ⟨0xA674, "COMBINING CYRILLIC ", "LETTER UKRAINIAN IE,LETTER I,LETTER YI,LETTER U,"
        ++ "LETTER HARD SIGN,LETTER YERU,LETTER SOFT SIGN,LETTER OMEGA,KAVYKA,PAYEROK"⟩,
   ⟨0xA67E, "CYRILLIC ", "KAVYKA,PAYEROK,CAPITAL LETTER DWE,SMALL LETTER DWE,CAPITAL LETTER DZWE,"
        ++ "SMALL LETTER DZWE,CAPITAL LETTER ZHWE,SMALL LETTER ZHWE,CAPITAL LETTER CCHE,"
        ++ "SMALL LETTER CCHE,CAPITAL LETTER DZZE,SMALL LETTER DZZE,"
        ++ "CAPITAL LETTER TE WITH MIDDLE HOOK,SMALL LETTER TE WITH MIDDLE HOOK,"
        ++ "CAPITAL LETTER TWE,SMALL LETTER TWE,CAPITAL LETTER TSWE,SMALL LETTER TSWE,"
        ++ "CAPITAL LETTER TSSE,SMALL LETTER TSSE,CAPITAL LETTER TCHE,SMALL LETTER TCHE,"
        ++ "CAPITAL LETTER HWE,SMALL LETTER HWE,CAPITAL LETTER SHWE,SMALL LETTER SHWE,"
        ++ "CAPITAL LETTER DOUBLE O,SMALL LETTER DOUBLE O,CAPITAL LETTER CROSSED O,"
        ++ "SMALL LETTER CROSSED O"⟩,
   ⟨0xA69C, "MODIFIER LETTER CYRILLIC ", "HARD SIGN,SOFT SIGN"⟩,
   ⟨0xA69E, "COMBINING CYRILLIC LETTER ", "EF,IOTIFIED E"⟩,
   ⟨0xA6A0, "BAMUM LETTER ", "A,KA,U,KU,EE,REE,TAE,O,NYI,I,LA,PA,RII,RIEE,LEEEE,MEEEE,TAA,NDAA,"
        ++ "NJAEM,M,SUU,MU,SHII,SI,SHEUX,SEUX,KYEE,KET,NUAE,NU,NJUAE,YOQ,SHU,YUQ,YA,NSHA,KEUX,"
        ++ "PEUX,NJEE,NTEE,PUE,WUE,PEE,FEE,RU,LU,MI,NI,REUX,RAE,KEN,NGKWAEN,NGGA,NGA,SHO,PUAE,FU,"
        ++ "FOM,WA,NA,LI,PI,LOQ,KO,MBEN,REN,MEN,MA,TI,KI,MO,MBAA,TET,KPA,TEN,NTUU,SAMBA,FAAMAE,"
        ++ "KOVUU,KOGHOM"⟩,
   ⟨0xA6F0, "BAMUM ", "COMBINING MARK KOQNDON,COMBINING MARK TUKWENTIS,NJAEMLI,FULL STOP,COLON,"
        ++ "COMMA,SEMICOLON,QUESTION MARK"⟩,
   ⟨0xA700, "MODIFIER LETTER CHINESE TONE ", "YIN PING,YANG PING,YIN SHANG,YANG SHANG,YIN QU,"
        ++ "YANG QU,YIN RU,YANG RU"⟩,
   ⟨0xA708, "MODIFIER LETTER ", "EXTRA-HIGH DOTTED TONE BAR,HIGH DOTTED TONE BAR,"
        ++ "MID DOTTED TONE BAR,LOW DOTTED TONE BAR,EXTRA-LOW DOTTED TONE BAR,"
        ++ "EXTRA-HIGH DOTTED LEFT-STEM TONE BAR,HIGH DOTTED LEFT-STEM TONE BAR,"
        ++ "MID DOTTED LEFT-STEM TONE BAR,LOW DOTTED LEFT-STEM TONE BAR,"
        ++ "EXTRA-LOW DOTTED LEFT-STEM TONE BAR,EXTRA-HIGH LEFT-STEM TONE BAR,"
        ++ "HIGH LEFT-STEM TONE BAR,MID LEFT-STEM TONE BAR,LOW LEFT-STEM TONE BAR,"
        ++ "EXTRA-LOW LEFT-STEM TONE BAR,DOT VERTICAL BAR,DOT SLASH,DOT HORIZONTAL BAR,"
        ++ "LOWER RIGHT CORNER ANGLE,RAISED UP ARROW,RAISED DOWN ARROW,RAISED EXCLAMATION MARK,"
        ++ "RAISED INVERTED EXCLAMATION MARK,LOW INVERTED EXCLAMATION MARK,STRESS AND HIGH TONE,"
        ++ "STRESS AND LOW TONE"⟩,
   ⟨0xA722, "LATIN ", "CAPITAL LETTER EGYPTOLOGICAL ALEF,SMALL LETTER EGYPTOLOGICAL ALEF,"
        ++ "CAPITAL LETTER EGYPTOLOGICAL AIN,SMALL LETTER EGYPTOLOGICAL AIN,CAPITAL LETTER HENG,"
        ++ "SMALL LETTER HENG,CAPITAL LETTER TZ,SMALL LETTER TZ,CAPITAL LETTER TRESILLO,"
        ++ "SMALL LETTER TRESILLO,CAPITAL LETTER CUATRILLO,SMALL LETTER CUATRILLO,"
        ++ "CAPITAL LETTER CUATRILLO WITH COMMA,SMALL LETTER CUATRILLO WITH COMMA,"
        ++ "LETTER SMALL CAPITAL F,LETTER SMALL CAPITAL S,CAPITAL LETTER AA,SMALL LETTER AA,"
        ++ "CAPITAL LETTER AO,SMALL LETTER AO,CAPITAL LETTER AU,SMALL LETTER AU,"
        ++ "CAPITAL LETTER AV,SMALL LETTER AV,CAPITAL LETTER AV WITH HORIZONTAL BAR,"
        ++ "SMALL LETTER AV WITH HORIZONTAL BAR,CAPITAL LETTER AY,SMALL LETTER AY,"
        ++ "CAPITAL LETTER REVERSED C WITH DOT,SMALL LETTER REVERSED C WITH DOT,"
        ++ "CAPITAL LETTER K WITH STROKE,SMALL LETTER K WITH STROKE,"
        ++ "CAPITAL LETTER K WITH DIAGONAL STROKE,SMALL LETTER K WITH DIAGONAL STROKE,"
        ++ "CAPITAL LETTER K WITH STROKE AND DIAGONAL STROKE,"
        ++ "SMALL LETTER K WITH STROKE AND DIAGONAL STROKE,CAPITAL LETTER BROKEN L,"
        ++ "SMALL LETTER BROKEN L,CAPITAL LETTER L WITH HIGH STROKE,"
        ++ "SMALL LETTER L WITH HIGH STROKE,CAPITAL LETTER O WITH LONG STROKE OVERLAY,"
        ++ "SMALL LETTER O WITH LONG STROKE OVERLAY,CAPITAL LETTER O WITH LOOP,"
        ++ "SMALL LETTER O WITH LOOP,CAPITAL LETTER OO,SMALL LETTER OO,"
        ++ "CAPITAL LETTER P WITH STROKE THROUGH DESCENDER,"
        ++ "SMALL LETTER P WITH STROKE THROUGH DESCENDER,CAPITAL LETTER P WITH FLOURISH,"
        ++ "SMALL LETTER P WITH FLOURISH,CAPITAL LETTER P WITH SQUIRREL TAIL,"
        ++ "SMALL LETTER P WITH SQUIRREL TAIL,CAPITAL LETTER Q WITH STROKE THROUGH DESCENDER,"
        ++ "SMALL LETTER Q WITH STROKE THROUGH DESCENDER,CAPITAL LETTER Q WITH DIAGONAL STROKE,"
        ++ "SMALL LETTER Q WITH DIAGONAL STROKE,CAPITAL LETTER R ROTUNDA,SMALL LETTER R ROTUNDA,"
        ++ "CAPITAL LETTER RUM ROTUNDA,SMALL LETTER RUM ROTUNDA,"
        ++ "CAPITAL LETTER V WITH DIAGONAL STROKE,SMALL LETTER V WITH DIAGONAL STROKE,"
        ++ "CAPITAL LETTER VY,SMALL LETTER VY,CAPITAL LETTER VISIGOTHIC Z,"
        ++ "SMALL LETTER VISIGOTHIC Z,CAPITAL LETTER THORN WITH STROKE,"
        ++ "SMALL LETTER THORN WITH STROKE,CAPITAL LETTER THORN WITH STROKE THROUGH DESCENDER,"
        ++ "SMALL LETTER THORN WITH STROKE THROUGH DESCENDER,CAPITAL LETTER VEND,"
        ++ "SMALL LETTER VEND,CAPITAL LETTER ET,SMALL LETTER ET,CAPITAL LETTER IS,"
        ++ "SMALL LETTER IS,CAPITAL LETTER CON,SMALL LETTER CON"⟩,
   ⟨0xA770, "MODIFIER LETTER ", "US"⟩,
   ⟨0xA771, "LATIN SMALL LETTER ", "DUM,LUM,MUM,NUM,RUM"⟩,
   ⟨0xA776, "LATIN ", "LETTER SMALL CAPITAL RUM,SMALL LETTER TUM,SMALL LETTER UM,"
        ++ "CAPITAL LETTER INSULAR D,SMALL LETTER INSULAR D,CAPITAL LETTER INSULAR F,"
        ++ "SMALL LETTER INSULAR F,CAPITAL LETTER INSULAR G,CAPITAL LETTER TURNED INSULAR G,"
        ++ "SMALL LETTER TURNED INSULAR G,CAPITAL LETTER TURNED L,SMALL LETTER TURNED L,"
        ++ "CAPITAL LETTER INSULAR R,SMALL LETTER INSULAR R,CAPITAL LETTER INSULAR S,"
        ++ "SMALL LETTER INSULAR S,CAPITAL LETTER INSULAR T,SMALL LETTER INSULAR T"⟩,
   ⟨0xA788, "MODIFIER LETTER ", "LOW CIRCUMFLEX ACCENT,COLON,SHORT EQUALS SIGN"⟩,
   ⟨0xA78B, "LATIN ", "CAPITAL LETTER SALTILLO,SMALL LETTER SALTILLO,CAPITAL LETTER TURNED H,"
        ++ "SMALL LETTER L WITH RETROFLEX HOOK AND BELT,LETTER SINOLOGICAL DOT,"
        ++ "CAPITAL LETTER N WITH DESCENDER,SMALL LETTER N WITH DESCENDER,"
        ++ "CAPITAL LETTER C WITH BAR,SMALL LETTER C WITH BAR,SMALL LETTER C WITH PALATAL HOOK,"
        ++ "SMALL LETTER H WITH PALATAL HOOK,CAPITAL LETTER B WITH FLOURISH,"
        ++ "SMALL LETTER B WITH FLOURISH,CAPITAL LETTER F WITH STROKE,SMALL LETTER F WITH STROKE,"
        ++ "CAPITAL LETTER VOLAPUK AE,SMALL LETTER VOLAPUK AE,CAPITAL LETTER VOLAPUK OE,"
        ++ "SMALL LETTER VOLAPUK OE,CAPITAL LETTER VOLAPUK UE,SMALL LETTER VOLAPUK UE,"
        ++ "CAPITAL LETTER G WITH OBLIQUE STROKE,SMALL LETTER G WITH OBLIQUE STROKE,"
        ++ "CAPITAL LETTER K WITH OBLIQUE STROKE,SMALL LETTER K WITH OBLIQUE STROKE,"
        ++ "CAPITAL LETTER N WITH OBLIQUE STROKE,SMALL LETTER N WITH OBLIQUE STROKE,"
        ++ "CAPITAL LETTER R WITH OBLIQUE STROKE,SMALL LETTER R WITH OBLIQUE STROKE,"
        ++ "CAPITAL LETTER S WITH OBLIQUE STROKE,SMALL LETTER S WITH OBLIQUE STROKE,"
        ++ "CAPITAL LETTER H WITH HOOK,CAPITAL LETTER REVERSED OPEN E,CAPITAL LETTER SCRIPT G,"
        ++ "CAPITAL LETTER L WITH BELT,CAPITAL LETTER SMALL CAPITAL I,LETTER SMALL CAPITAL Q,"
        ++ "CAPITAL LETTER TURNED K,CAPITAL LETTER TURNED T,CAPITAL LETTER J WITH CROSSED-TAIL,"
        ++ "CAPITAL LETTER CHI,CAPITAL LETTER BETA,SMALL LETTER BETA,CAPITAL LETTER OMEGA,"
        ++ "SMALL LETTER OMEGA,CAPITAL LETTER U WITH STROKE,SMALL LETTER U WITH STROKE,"
        ++ "CAPITAL LETTER GLOTTAL A,SMALL LETTER GLOTTAL A,CAPITAL LETTER GLOTTAL I,"
        ++ "SMALL LETTER GLOTTAL I,CAPITAL LETTER GLOTTAL U,SMALL LETTER GLOTTAL U,"
        ++ "CAPITAL LETTER OLD POLISH O,SMALL LETTER OLD POLISH O,CAPITAL LETTER ANGLICANA W,"
        ++ "SMALL LETTER ANGLICANA W,CAPITAL LETTER C WITH PALATAL HOOK,"
        ++ "CAPITAL LETTER S WITH HOOK,CAPITAL LETTER Z WITH PALATAL HOOK,"
        ++ "CAPITAL LETTER D WITH SHORT STROKE OVERLAY,SMALL LETTER D WITH SHORT STROKE OVERLAY,"
        ++ "CAPITAL LETTER S WITH SHORT STROKE OVERLAY,SMALL LETTER S WITH SHORT STROKE OVERLAY"⟩,
   ⟨0xA7D0, "LATIN ", "CAPITAL LETTER CLOSED INSULAR G,SMALL LETTER CLOSED INSULAR G"⟩,
   ⟨0xA7D3, "LATIN SMALL LETTER DOUBLE ", "THORN"⟩,
   ⟨0xA7D5, "LATIN ", "SMALL LETTER DOUBLE WYNN,CAPITAL LETTER MIDDLE SCOTS S,"
        ++ "SMALL LETTER MIDDLE SCOTS S,CAPITAL LETTER SIGMOID S,SMALL LETTER SIGMOID S"⟩,
   ⟨0xA7F2, "MODIFIER LETTER CAPITAL ", "C,F,Q"⟩,
   ⟨0xA7F5, "", "LATIN CAPITAL LETTER REVERSED HALF H,LATIN SMALL LETTER REVERSED HALF H,"
        ++ "LATIN EPIGRAPHIC LETTER SIDEWAYS I,MODIFIER LETTER CAPITAL H WITH STROKE,"
        ++ "MODIFIER LETTER SMALL LIGATURE OE,LATIN LETTER SMALL CAPITAL TURNED M"⟩,
   ⟨0xA7FB, "LATIN EPIGRAPHIC LETTER ", "REVERSED F,REVERSED P,INVERTED M,I LONGA,ARCHAIC M"⟩,
   ⟨0xA800, "SYLOTI NAGRI ", "LETTER A,LETTER I,SIGN DVISVARA,LETTER U,LETTER E,LETTER O,"
        ++ "SIGN HASANTA,LETTER KO,LETTER KHO,LETTER GO,LETTER GHO,SIGN ANUSVARA"⟩,
   ⟨0xA80C, "SYLOTI NAGRI LETTER ", "CO,CHO,JO,JHO,TTO,TTHO,DDO,DDHO,TO,THO,DO,DHO,NO,PO,PHO,BO,"
        ++ "BHO,MO,RO,LO,RRO,SO,HO"⟩,
   ⟨0xA823, "SYLOTI NAGRI VOWEL SIGN ", "A,I,U,E,OO"⟩,
   ⟨0xA828, "SYLOTI NAGRI ", "POETRY MARK-1,POETRY MARK-2,POETRY MARK-3,POETRY MARK-4,"
        ++ "SIGN ALTERNATE HASANTA"⟩,
   ⟨0xA830, "NORTH INDIC FRACTION ", "ONE QUARTER,ONE HALF,THREE QUARTERS,ONE SIXTEENTH,"
        ++ "ONE EIGHTH,THREE SIXTEENTHS"⟩,
   ⟨0xA836, "NORTH INDIC ", "QUARTER MARK,PLACEHOLDER MARK,RUPEE MARK,QUANTITY MARK"⟩,
   ⟨0xA840, "PHAGS-PA LETTER ", "KA,KHA,GA,NGA,CA,CHA,JA,NYA,TA,THA,DA,NA,PA,PHA,BA,MA,TSA,TSHA,"
        ++ "DZA,WA,ZHA,ZA,SMALL A,YA,RA,LA,SHA,SA,HA,A,I,U,E,O,QA,XA,FA,GGA,EE"⟩,
   ⟨0xA867, "PHAGS-PA ", "SUBJOINED LETTER WA,SUBJOINED LETTER YA,LETTER TTA,LETTER TTHA,"
        ++ "LETTER DDA,LETTER NNA,LETTER ALTERNATE YA,LETTER VOICELESS SHA,LETTER VOICED HA,"
        ++ "LETTER ASPIRATED FA,SUBJOINED LETTER RA,SUPERFIXED LETTER RA,LETTER CANDRABINDU,"
        ++ "SINGLE HEAD MARK,DOUBLE HEAD MARK,MARK SHAD,MARK DOUBLE SHAD"⟩]

end InstanceCatalog.Text.CharName
