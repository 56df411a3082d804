import QuestionQuery.Text.Graphic

/-
  This file defines how the characters of a name are folded,
  so that names that are read alike become one name: large
  letters become small, variants of a letter become the
  letter, and some characters are left out or refused.

  Key definitions include:
    * `Domain.fold`
-/

namespace QuestionQuery

namespace Domain

------------------------------------------------------------
-- Tables
------------------------------------------------------------

/- The ranges of characters that a name is read without. -/
def droppedRanges : List (Nat × Nat) :=
  [(0x00AD, 0x00AD), (0x034F, 0x034F), (0x115F, 0x1160),
    (0x17B4, 0x17B5), (0x180B, 0x180F), (0x200B, 0x200B),
    (0x2060, 0x2064), (0x206A, 0x206F), (0x3164, 0x3164),
    (0xFE00, 0xFE0F), (0xFEFF, 0xFEFF), (0xFFA0, 0xFFA0),
    (0x1BCA0, 0x1BCA3), (0x1D173, 0x1D17A), (0xE0100, 0xE01EF)]

/- The ranges of graphic characters that no name has. -/
def refusedRanges : List (Nat × Nat) :=
  [(0x2024, 0x2026), (0x2488, 0x249B), (0x2FF0, 0x2FFF),
    (0x31EF, 0x31EF), (0x33C2, 0x33C2), (0x33C7, 0x33C7),
    (0x33D8, 0x33D8), (0xFE12, 0xFE12), (0xFE19, 0xFE19),
    (0xFE30, 0xFE30), (0xFE52, 0xFE52), (0xFFFC, 0xFFFD),
    (0x1F100, 0x1F100)]

/-
  The images of characters in a row, by the first of them.
  A character that is its own image may stand between others.
-/
def images : List (Nat × String) :=
  [(0x00A0, " "), (0x00AA, "a"), (0x00B2, "23"), (0x00B5, "μ"),
    (0x00B9, "1o"), (0x00C0, "àáâãäåæçèéêëìíîïðñòóôõö×øùúûüýþ"),
    (0x0100, "āāăăąąććĉĉċċččďďđđēēĕĕėėęęěěĝĝğğġġģģĥĥħħĩĩīīĭĭį"),
    (0x0134, "ĵĵķķĸĺĺļļľ"), (0x0141, "łłńńņņň"),
    (0x014A, "ŋŋōōŏŏőőœœŕŕŗŗřřśśŝŝşşššţţťťŧŧũũūūŭŭůůűűųųŵŵŷŷÿźźż"),
    (0x017D, "žžsƀɓƃƃƅƅɔƈƈɖɗƌƌƍǝəɛƒƒɠɣƕɩɨƙƙƚƛɯɲƞɵơơƣƣƥƥʀƨƨʃƪƫƭƭʈ"),
    (0x01AF, "ưưʊʋƴƴƶƶʒƹƹƺƻƽ"),
    (0x01CD, "ǎǎǐǐǒǒǔǔǖǖǘǘǚǚǜǜǝǟǟǡǡǣǣǥǥǧǧǩǩǫǫǭǭǯ"),
    (0x01F4, "ǵǵƕƿǹǹǻǻǽǽǿǿȁȁȃȃȅȅȇȇȉȉȋȋȍȍȏȏȑȑȓȓȕȕȗȗșșțțȝȝȟȟƞȡȣȣȥ"),
    (0x0226, "ȧȧȩȩȫȫȭȭȯȯȱȱȳ"), (0x023A, "ⱥȼȼƚⱦȿɀɂɂƀʉʌɇɇɉɉɋɋɍɍɏ"),
    (0x02B0, "hɦjrɹɻʁwy"), (0x02E0, "ɣlsxʕ"),
    (0x0340, "\u0300\u0301\u0342\u0313"), (0x0345, "ι"),
    (0x0370, "ͱͱͳͳʹ͵ͷ"), (0x037E, ";ϳ"), (0x0386, "ά·έήί"),
    (0x038C, "ό"), (0x038E, "ύώΐαβγδεζηθικλμνξοπρ"),
    (0x03A3, "στυφχψωϊϋ"),
    (0x03CF, "ϗβθυύϋφπϗϙϙϛϛϝϝϟϟϡϡϣϣϥϥϧϧϩϩϫϫϭϭϯϯκρσϳθε϶ϸϸσϻϻϼͻͼͽѐ"),
    (0x0401, "ёђѓєѕіїјљњћќѝўџабвгдежзийклмнопрстуфхцчшщъыьэюя"),
    (0x0460, "ѡѡѣѣѥѥѧѧѩѩѫѫѭѭѯѯѱѱѳѳѵѵѷѷѹѹѻѻѽѽѿѿҁ"),
    (0x048A, "ҋҋҍҍҏҏґґғғҕҕҗҗҙҙққҝҝҟҟҡҡңңҥҥҧҧҩҩҫҫҭҭүүұұҳҳҵҵҷҷҹҹһ"),
    (0x04BC, "ҽҽҿҿӏӂӂӄӄӆӆӈӈӊӊӌӌӎӎӏӑӑӓӓӕӕӗӗәәӛӛӝӝӟӟӡӡӣӣӥӥӧӧөөӫӫӭ"),
    (0x04EE, "ӯӯӱӱӳӳӵӵӷӷӹӹӻӻӽӽӿӿԁԁԃԃԅԅԇԇԉԉԋԋԍԍԏԏԑԑԓԓԕԕԗԗԙԙԛԛԝԝԟ"),
    (0x0520, "ԡԡԣԣԥԥԧԧԩԩԫԫԭԭԯ"),
    (0x0531, "աբգդեզէըթժիլխծկհձղճմյնշոչպջռսվտրցւփքօֆ"), (0x0F0C, "་"),
    (0x10A0, "ⴀⴁⴂⴃⴄⴅⴆⴇⴈⴉⴊⴋⴌⴍⴎⴏⴐⴑⴒⴓⴔⴕⴖⴗⴘ"), (0x10B9, "ⴙⴚⴛⴜⴝⴞⴟⴠⴡⴢⴣⴤⴥ"),
    (0x10C7, "ⴧ"), (0x10CD, "ⴭ"), (0x10FC, "ნ"), (0x13F8, "ᏰᏱᏲᏳᏴᏵ"),
    (0x1C80, "вдосттъѣꙋᲊ"),
    (0x1C90, "აბგდევზთიკლმნოპჟრსტუფქღყშჩცძწჭხჯჰჱჲჳჴჵჶჷჸჹჺ"),
    (0x1CBD, "ჽჾჿ"),
    (0x1D2C, "aæbᴯdeǝghijklmnᴻoȣprtuwaɐɑᴂbdeəɛɜgᵎkmŋoɔᴖᴗpt"),
    (0x1D58, "uᴝɯvᴥβγδφχiruvβγρφχ"), (0x1D78, "н"),
    (0x1D9B, "ɒcɕðɜfɟɡɥɨɩɪᵻʝɭᶅʟɱɰɲɳɴɵɸʂʃƫʉʊᴜʋʌzʐʑʒθ"),
    (0x1E00, "ḁḁḃḃḅḅḇḇḉḉḋḋḍḍḏḏḑḑḓḓḕḕḗḗḙ"),
    (0x1E1A, "ḛḛḝḝḟḟḡḡḣḣḥḥḧḧḩḩḫḫḭḭḯḯḱḱḳ"),
    (0x1E34, "ḵḵḷḷḹḹḻḻḽḽḿḿṁṁṃṃṅṅṇṇṉṉṋṋṍ"),
    (0x1E4E, "ṏṏṑṑṓṓṕṕṗṗṙṙṛṛṝṝṟṟṡṡṣṣṥṥṧ"),
    (0x1E68, "ṩṩṫṫṭṭṯṯṱṱṳṳṵṵṷṷṹṹṻṻṽṽṿṿẁ"),
    (0x1E82, "ẃẃẅẅẇẇẉẉẋẋẍẍẏẏẑẑẓẓẕ"),
    (0x1E9B, "ṡẜẝßẟạạảảấấầầẩẩẫẫậậắắằằẳ"),
    (0x1EB4, "ẵẵặặẹẹẻẻẽẽếếềềểểễễệệỉỉịịọ"),
    (0x1ECE, "ỏỏốốồồổổỗỗộộớớờờởởỡỡợợụụủ"),
    (0x1EE8, "ứứừừửửữữựựỳỳỵỵỷỷỹỹỻỻỽỽỿ"), (0x1F08, "ἀἁἂἃἄἅἆἇ"),
    (0x1F18, "ἐἑἒἓἔἕ"), (0x1F28, "ἠἡἢἣἤἥἦἧ"), (0x1F38, "ἰἱἲἳἴἵἶἷ"),
    (0x1F48, "ὀὁὂὃὄὅ"), (0x1F59, "ὑ"), (0x1F5B, "ὓ"), (0x1F5D, "ὕ"),
    (0x1F5F, "ὗ"), (0x1F68, "ὠὡὢὣὤὥὦὧὰάὲέὴήὶίὸόὺύὼώ"), (0x1FB8, "ᾰᾱὰά"),
    (0x1FBE, "ι"), (0x1FC8, "ὲέὴή"), (0x1FD3, "ΐ"), (0x1FD8, "ῐῑὶί"),
    (0x1FE3, "ΰ"), (0x1FE8, "ῠῡὺύῥ"), (0x1FEF, "`"), (0x1FF8, "ὸόὼώ"),
    (0x2000, "           "), (0x2011, "‐"), (0x202F, " "),
    (0x205F, " "), (0x2070, "0i"),
    (0x2074, "456789+−=()n0123456789+−=()"), (0x2090, "aeoxəhklmnpst"),
    (0x2102, "c"), (0x2107, "ɛ"), (0x210A, "ghhhhħiill℔n"),
    (0x2119, "pqrrr"),
    (0x2124, "z℥ω℧z℩kåbc℮eefⅎmo\u05D0\u05D1\u05D2\u05D3i"),
    (0x213C, "πγγπ∑"), (0x2145, "ddeij"), (0x2160, "i"), (0x2164, "v"),
    (0x2169, "x"), (0x216C, "lcdmi"), (0x2174, "v"), (0x2179, "x"),
    (0x217C, "lcdmↀↁↂↄ"), (0x2329, "〈〉"), (0x2460, "123456789"),
    (0x24B6, "abcdefghijklmnopqrstuvwxyzabcdefghijklmnopqrstuvwx"),
    (0x24E8, "yz0"), (0x2C00, "ⰰⰱⰲⰳⰴⰵⰶⰷⰸⰹⰺⰻⰼⰽⰾⰿⱀⱁⱂⱃⱄⱅⱆⱇⱈ"),
    (0x2C19, "ⱉⱊⱋⱌⱍⱎⱏⱐⱑⱒⱓⱔⱕⱖⱗⱘⱙⱚⱛⱜⱝⱞⱟ"),
    (0x2C60, "ⱡⱡɫᵽɽⱥⱦⱨⱨⱪⱪⱬⱬɑɱɐɒⱱⱳⱳⱴⱶ"),
    (0x2C7C, "jvȿɀⲁⲁⲃⲃⲅⲅⲇⲇⲉⲉⲋⲋⲍⲍⲏⲏⲑⲑⲓⲓⲕⲕⲗ"),
    (0x2C98, "ⲙⲙⲛⲛⲝⲝⲟⲟⲡⲡⲣⲣⲥⲥⲧⲧⲩⲩⲫⲫⲭⲭⲯⲯⲱ"),
    (0x2CB2, "ⲳⲳⲵⲵⲷⲷⲹⲹⲻⲻⲽⲽⲿⲿⳁⳁⳃⳃⳅⳅⳇⳇⳉⳉⳋ"),
    (0x2CCC, "ⳍⳍⳏⳏⳑⳑⳓⳓⳕⳕⳗⳗⳙⳙⳛⳛⳝⳝⳟⳟⳡⳡⳣ"), (0x2CEB, "ⳬⳬⳮ"), (0x2CF2, "ⳳ"),
    (0x2D6F, "ⵡ"), (0x2E9F, "母"), (0x2EF3, "龟"),
    (0x2F00, "一丨丶丿乙亅二亠人儿入八冂冖冫几凵刀力勹匕匚匸十卜"),
    (0x2F19, "卩厂厶又口囗土士夂夊夕大女子宀寸小尢尸屮山巛工己巾"),
    (0x2F32, "干幺广廴廾弋弓彐彡彳心戈戶手支攴文斗斤方无日曰月木"),
    (0x2F4B, "欠止歹殳毋比毛氏气水火爪父爻爿片牙牛犬玄玉瓜瓦甘生"),
    (0x2F64, "用田疋疒癶白皮皿目矛矢石示禸禾穴立竹米糸缶网羊羽老"),
    (0x2F7D, "而耒耳聿肉臣自至臼舌舛舟艮色艸虍虫血行衣襾見角言谷"),
    (0x2F96, "豆豕豸貝赤走足身車辛辰辵邑酉釆里金長門阜隶隹雨靑非"),
    (0x2FAF, "面革韋韭音頁風飛食首香馬骨高髟鬥鬯鬲鬼魚鳥鹵鹿麥麻"), (0x2FC8, "黃黍黑黹黽鼎鼓鼠鼻齊齒龍龜龠"),
    (0x3000, " 、."), (0x3036, "〒〷十卄卅"),
    (0x3131, "ᄀᄁᆪᄂᆬᆭᄃᄄᄅᆰᆱᆲᆳᆴᆵᄚᄆᄇᄈᄡᄉᄊᄋᄌᄍ"),
    (0x314A, "ᄎᄏᄐᄑ하ᅢᅣᅤᅥᅦᅧᅨᅩᅪᅫᅬᅭᅮᅯᅰᅱᅲᅳᅴ"), (0x3163, "ᅵ"),
    (0x3165, "ᄔᄕᇇᇈᇌᇎᇓᇗᇙᄜᇝᇟᄝᄞᄠᄢᄣᄧᄩᄫᄬᄭᄮᄯᄲ"),
    (0x317E, "ᄶᅀᅇᅌᇱᇲᅗᅘᅙᆄᆅᆈᆑᆒᆔᆞᆡ"), (0x3192, "一二三四上中下甲乙丙丁天地人"),
    (0x3244, "問幼文箏"), (0x3260, "ᄀᄂᄃᄅᄆᄇᄉᄋᄌᄎᄏᄐᄑᄒ가나다라마바사아자차카"),
    (0x3279, "타파하"), (0x327E, "우㉿一二三四五六七八九十月火水木金土日株有社名特財"),
    (0x3297, "祝労秘男女適優印注項休写正上中下左右医宗学監企資協"), (0x32B0, "夜"),
    (0x32D0, "アイウエオカキクケコサシスセソタチツテトナニヌネノ"),
    (0x32E9, "ハヒフヘホマミムメモヤユヨラリルレロワヰヱヲ"),
    (0xA640, "ꙁꙁꙃꙃꙅꙅꙇꙇꙉꙉꙋꙋꙍꙍꙏꙏꙑꙑꙓꙓꙕꙕꙗꙗꙙ"),
    (0xA65A, "ꙛꙛꙝꙝꙟꙟꙡꙡꙣꙣꙥꙥꙧꙧꙩꙩꙫꙫꙭ"),
    (0xA680, "ꚁꚁꚃꚃꚅꚅꚇꚇꚉꚉꚋꚋꚍꚍꚏꚏꚑꚑꚓꚓꚕꚕꚗꚗꚙ"), (0xA69A, "ꚛꚛъь"),
    (0xA722, "ꜣꜣꜥꜥꜧꜧꜩꜩꜫꜫꜭꜭꜯꜯꜰꜱꜳꜳꜵꜵꜷꜷꜹꜹꜻ"),
    (0xA73C, "ꜽꜽꜿꜿꝁꝁꝃꝃꝅꝅꝇꝇꝉꝉꝋꝋꝍꝍꝏꝏꝑꝑꝓꝓꝕ"),
    (0xA756, "ꝗꝗꝙꝙꝛꝛꝝꝝꝟꝟꝡꝡꝣꝣꝥꝥꝧꝧꝩꝩꝫꝫꝭꝭꝯ"), (0xA770, "ꝯ"),
    (0xA779, "ꝺꝺꝼꝼᵹꝿꝿꞁꞁꞃꞃꞅꞅꞇ"), (0xA78B, "ꞌꞌɥꞎꞏꞑꞑꞓꞓꞔꞕꞗꞗꞙꞙꞛꞛꞝꞝꞟꞟꞡꞡꞣ"),
    (0xA7A4, "ꞥꞥꞧꞧꞩꞩɦɜɡɬɪꞯʞʇʝꭓꞵꞵꞷꞷꞹꞹꞻꞻꞽꞽꞿꞿꟁ"),
    (0xA7C2, "ꟃꟃꞔʂᶎꟈꟈꟊꟊɤꟍꟍ꟏꟏ꟑꟑꟓꟓꟕꟕꟗꟗꟙꟙꟛ"), (0xA7DC, "ƛ"),
    (0xA7F1, "scfqꟶꟶꟷħœ"), (0xAB5C, "ꜧꬷɫꭒ"), (0xAB69, "ʍ"),
    (0xAB70, "ᎠᎡᎢᎣᎤᎥᎦᎧᎨᎩᎪᎫᎬᎭᎮᎯᎰᎱᎲᎳᎴᎵᎶᎷᎸ"),
    (0xAB89, "ᎹᎺᎻᎼᎽᎾᎿᏀᏁᏂᏃᏄᏅᏆᏇᏈᏉᏊᏋᏌᏍᏎᏏᏐᏑ"),
    (0xABA2, "ᏒᏓᏔᏕᏖᏗᏘᏙᏚᏛᏜᏝᏞᏟᏠᏡᏢᏣᏤᏥᏦᏧᏨᏩᏪ"), (0xABBB, "ᏫᏬᏭᏮᏯ"),
    (0xF900, "豈更車賈滑串句龜龜契金喇奈懶癩羅蘿螺裸邏樂洛烙珞落"),
    (0xF919, "酪駱亂卵欄爛蘭鸞嵐濫藍襤拉臘蠟廊朗浪狼郎來冷勞擄櫓"),
    (0xF932, "爐盧老蘆虜路露魯鷺碌祿綠菉錄鹿論壟弄籠聾牢磊賂雷壘"),
    (0xF94B, "屢樓淚漏累縷陋勒肋凜凌稜綾菱陵讀拏樂諾丹寧怒率異北"),
    (0xF964, "磻便復不泌數索參塞省葉說殺辰沈拾若掠略亮兩凉梁糧良"),
    (0xF97D, "諒量勵呂女廬旅濾礪閭驪麗黎力曆歷轢年憐戀撚漣煉璉秊"),
    (0xF996, "練聯輦蓮連鍊列劣咽烈裂說廉念捻殮簾獵令囹寧嶺怜玲瑩"),
    (0xF9AF, "羚聆鈴零靈領例禮醴隸惡了僚寮尿料樂燎療蓼遼龍暈阮劉"),
    (0xF9C8, "杻柳流溜琉留硫紐類六戮陸倫崙淪輪律慄栗率隆利吏履易"),
    (0xF9E1, "李梨泥理痢罹裏裡里離匿溺吝燐璘藺隣鱗麟林淋臨立笠粒"),
    (0xF9FA, "狀炙識什茶刺切度拓糖宅洞暴輻行降見廓兀嗀﨎﨏塚﨑晴"),
    (0xFA15, "凞猪益礼神祥福靖精羽﨟蘒﨡諸﨣﨤逸都﨧﨨﨩飯飼館鶴"),
    (0xFA2E, "郞隷侮僧免勉勤卑喝嘆器塀墨層屮悔慨憎懲敏既暑梅海渚"),
    (0xFA47, "漢煮爫琢碑社祉祈祐祖祝禍禎穀突節練縉繁署者臭艹艹著"), (0xFA60, "褐視謁謹賓贈辶逸難響頻恵𤋮舘"),
    (0xFA70, "並况全侀充冀勇勺喝啕喙嗢塚墳奄奔婢嬨廒廙彩徭惘慎愈"),
    (0xFA89, "憎慠懲戴揄搜摒敖晴朗望杖歹殺流滛滋漢瀞煮瞧爵犯猪瑱"),
    (0xFAA2, "甆画瘝瘟益盛直睊着磌窱節类絛練缾者荒華蝹襁覆視調諸"),
    (0xFABB, "請謁諾諭謹變贈輸遲醙鉶陼難靖韛響頋頻鬒龜𢡊𢡄𣏕㮝䀘"), (0xFAD4, "䀹𥉉𥳐𧻓齃龎"),
    (0xFB20, "\u05E2\u05D0\u05D3\u05D4\u05DB\u05DC\u05DD\u05E8"),
    (0xFB28, "\u05EA+"),
    (0xFB50, "\u0671\u0671\u067B\u067B\u067B\u067B\u067E\u067E"),
    (0xFB58, "\u067E\u067E\u0680\u0680\u0680\u0680\u067A\u067A"),
    (0xFB60, "\u067A\u067A\u067F\u067F\u067F\u067F\u0679\u0679"),
    (0xFB68, "\u0679\u0679\u06A4\u06A4\u06A4\u06A4\u06A6\u06A6"),
    (0xFB70, "\u06A6\u06A6\u0684\u0684\u0684\u0684\u0683\u0683"),
    (0xFB78, "\u0683\u0683\u0686\u0686\u0686\u0686\u0687\u0687"),
    (0xFB80, "\u0687\u0687\u068D\u068D\u068C\u068C\u068E\u068E"),
    (0xFB88, "\u0688\u0688\u0698\u0698\u0691\u0691\u06A9\u06A9"),
    (0xFB90, "\u06A9\u06A9\u06AF\u06AF\u06AF\u06AF\u06B3\u06B3"),
    (0xFB98, "\u06B3\u06B3\u06B1\u06B1\u06B1\u06B1\u06BA\u06BA"),
    (0xFBA0, "\u06BB\u06BB\u06BB\u06BB\u06C0\u06C0\u06C1\u06C1"),
    (0xFBA8, "\u06C1\u06C1\u06BE\u06BE\u06BE\u06BE\u06D2\u06D2"),
    (0xFBB0, "\u06D3\u06D3"),
    (0xFBD3, "\u06AD\u06AD\u06AD\u06AD\u06C7\u06C7\u06C6\u06C6"),
    (0xFBDB, "\u06C8\u06C8"),
    (0xFBDE, "\u06CB\u06CB\u06C5\u06C5\u06C9\u06C9\u06D0\u06D0"),
    (0xFBE6, "\u06D0\u06D0\u0649\u0649"),
    (0xFBFC, "\u06CC\u06CC\u06CC\u06CC"), (0xFE10, ",、"),
    (0xFE13, ":;!?〖〗"), (0xFE31, "—–__()\x7b\x7d〔〕【】《》〈〉「」『』﹅﹆[]"),
    (0xFE4D, "___,、"), (0xFE54, ";:?!—()\x7b\x7d〔〕#&*+-<>="),
    (0xFE68, "\\$%@"),
    (0xFE80, "\u0621\u0622\u0622\u0623\u0623\u0624\u0624\u0625"),
    (0xFE88, "\u0625\u0626\u0626\u0626\u0626\u0627\u0627\u0628"),
    (0xFE90, "\u0628\u0628\u0628\u0629\u0629\u062A\u062A\u062A"),
    (0xFE98, "\u062A\u062B\u062B\u062B\u062B\u062C\u062C\u062C"),
    (0xFEA0, "\u062C\u062D\u062D\u062D\u062D\u062E\u062E\u062E"),
    (0xFEA8, "\u062E\u062F\u062F\u0630\u0630\u0631\u0631\u0632"),
    (0xFEB0, "\u0632\u0633\u0633\u0633\u0633\u0634\u0634\u0634"),
    (0xFEB8, "\u0634\u0635\u0635\u0635\u0635\u0636\u0636\u0636"),
    (0xFEC0, "\u0636\u0637\u0637\u0637\u0637\u0638\u0638\u0638"),
    (0xFEC8, "\u0638\u0639\u0639\u0639\u0639\u063A\u063A\u063A"),
    (0xFED0, "\u063A\u0641\u0641\u0641\u0641\u0642\u0642\u0642"),
    (0xFED8, "\u0642\u0643\u0643\u0643\u0643\u0644\u0644\u0644"),
    (0xFEE0, "\u0644\u0645\u0645\u0645\u0645\u0646\u0646\u0646"),
    (0xFEE8, "\u0646\u0647\u0647\u0647\u0647\u0648\u0648\u0649"),
    (0xFEF0, "\u0649\u064A\u064A\u064A\u064A"),
    (0xFF01, "!\"#$%&'()*+,-./0123456789:;<=>?@abcdefghijklmnopq"),
    (0xFF32, "rstuvwxyz[\\]^_`abcdefghijklmnopqrstuvwxyz\x7b|"),
    (0xFF5D, "\x7d~⦅⦆.「」、・ヲァィゥェォャュョッーアイウエオ"),
    (0xFF76, "カキクケコサシスセソタチツテトナニヌネノハヒフヘホ"),
    (0xFF8F, "マミムメモヤユヨラリルレロワン\u3099\u309A"),
    (0xFFA1, "ᄀᄁᆪᄂᆬᆭᄃᄄᄅᆰᆱᆲᆳᆴᆵᄚᄆᄇᄈᄡᄉᄊᄋᄌᄍ"), (0xFFBA, "ᄎᄏᄐᄑᄒ"),
    (0xFFC2, "ᅡᅢᅣᅤᅥᅦ"), (0xFFCA, "ᅧᅨᅩᅪᅫᅬ"), (0xFFD2, "ᅭᅮᅯᅰᅱᅲ"),
    (0xFFDA, "ᅳᅴᅵ"), (0xFFE0, "¢£¬"), (0xFFE4, "¦¥₩"),
    (0xFFE8, "│←↑→↓■○"), (0x10400, "𐐨𐐩𐐪𐐫𐐬𐐭𐐮𐐯𐐰𐐱𐐲𐐳𐐴𐐵𐐶𐐷𐐸𐐹𐐺𐐻𐐼𐐽𐐾𐐿𐑀"),
    (0x10419, "𐑁𐑂𐑃𐑄𐑅𐑆𐑇𐑈𐑉𐑊𐑋𐑌𐑍𐑎𐑏"),
    (0x104B0, "𐓘𐓙𐓚𐓛𐓜𐓝𐓞𐓟𐓠𐓡𐓢𐓣𐓤𐓥𐓦𐓧𐓨𐓩𐓪𐓫𐓬𐓭𐓮𐓯𐓰"), (0x104C9, "𐓱𐓲𐓳𐓴𐓵𐓶𐓷𐓸𐓹𐓺𐓻"),
    (0x10570, "𐖗𐖘𐖙𐖚𐖛𐖜𐖝𐖞𐖟𐖠𐖡"), (0x1057C, "𐖣𐖤𐖥𐖦𐖧𐖨𐖩𐖪𐖫𐖬𐖭𐖮𐖯𐖰𐖱"),
    (0x1058C, "𐖳𐖴𐖵𐖶𐖷𐖸𐖹"), (0x10594, "𐖻𐖼"), (0x10781, "ːˑæʙɓ"),
    (0x10787, "ʣꭦʥʤɖɗᶑɘɞʩɤɢɠʛħʜɧʄʪʫɬ𝼄ꞎɮ𝼅ʎ𝼆øɶɷqɺ𝼈ɽɾʀʨʦꭧʧʈ"),
    (0x107B0, "ⱱ"), (0x107B2, "ʏʡʢʘǀǁǂ𝼊𝼞"),
    (0x10C80, "𐳀𐳁𐳂𐳃𐳄𐳅𐳆𐳇𐳈𐳉𐳊𐳋𐳌𐳍𐳎𐳏𐳐𐳑𐳒𐳓𐳔𐳕𐳖𐳗𐳘"),
    (0x10C99, "𐳙𐳚𐳛𐳜𐳝𐳞𐳟𐳠𐳡𐳢𐳣𐳤𐳥𐳦𐳧𐳨𐳩𐳪𐳫𐳬𐳭𐳮𐳯𐳰𐳱"), (0x10CB2, "𐳲"),
    (0x10D50, "𐵰𐵱𐵲𐵳𐵴𐵵𐵶𐵷𐵸𐵹𐵺𐵻𐵼𐵽𐵾𐵿𐶀𐶁𐶂𐶃𐶄𐶅"),
    (0x118A0, "𑣀𑣁𑣂𑣃𑣄𑣅𑣆𑣇𑣈𑣉𑣊𑣋𑣌𑣍𑣎𑣏𑣐𑣑𑣒𑣓𑣔𑣕𑣖𑣗𑣘"), (0x118B9, "𑣙𑣚𑣛𑣜𑣝𑣞𑣟"),
    (0x16E40, "𖹠𖹡𖹢𖹣𖹤𖹥𖹦𖹧𖹨𖹩𖹪𖹫𖹬𖹭𖹮𖹯𖹰𖹱𖹲𖹳𖹴𖹵𖹶𖹷𖹸"), (0x16E59, "𖹹𖹺𖹻𖹼𖹽𖹾𖹿"),
    (0x16EA0, "𖺻𖺼𖺽𖺾𖺿𖻀𖻁𖻂𖻃𖻄𖻅𖻆𖻇𖻈𖻉𖻊𖻋𖻌𖻍𖻎𖻏𖻐𖻑𖻒𖻓"),
    (0x1CCD6, "abcdefghijklmnopqrstuvwxyz0123456789"),
    (0x1D400, "abcdefghijklmnopqrstuvwxyzabcdefghijklmnopqrstuvwx"),
    (0x1D432, "yzabcdefghijklmnopqrstuvwxyzabcdefg"),
    (0x1D456, "ijklmnopqrstuvwxyzabcdefghijklmnopqrstuvwxyzabcdef"),
    (0x1D488, "ghijklmnopqrstuvwxyza"), (0x1D49E, "cd"), (0x1D4A2, "g"),
    (0x1D4A5, "jk"), (0x1D4A9, "nopq"), (0x1D4AE, "stuvwxyzabcd"),
    (0x1D4BB, "f"), (0x1D4BD, "hijklmn"),
    (0x1D4C5, "pqrstuvwxyzabcdefghijklmnopqrstuvwxyzabcdefghijklm"),
    (0x1D4F7, "nopqrstuvwxyzab"), (0x1D507, "defg"),
    (0x1D50D, "jklmnopq"), (0x1D516, "stuvwxy"),
    (0x1D51E, "abcdefghijklmnopqrstuvwxyzab"), (0x1D53B, "defg"),
    (0x1D540, "ijklm"), (0x1D546, "o"), (0x1D54A, "stuvwxy"),
    (0x1D552, "abcdefghijklmnopqrstuvwxyzabcdefghijklmnopqrstuvwx"),
    (0x1D584, "yzabcdefghijklmnopqrstuvwxyzabcdefghijklmnopqrstuv"),
    (0x1D5B6, "wxyzabcdefghijklmnopqrstuvwxyzabcdefghijklmnopqrst"),
    (0x1D5E8, "uvwxyzabcdefghijklmnopqrstuvwxyzabcdefghijklmnopqr"),
    (0x1D61A, "stuvwxyzabcdefghijklmnopqrstuvwxyzabcdefghijklmnop"),
    (0x1D64C, "qrstuvwxyzabcdefghijklmnopqrstuvwxyzabcdefghijklmn"),
    (0x1D67E, "opqrstuvwxyzabcdefghijklmnopqrstuvwxyzıȷ"),
    (0x1D6A8, "αβγδεζηθικλμνξοπρθστυφχψω∇αβγδεζηθικλμνξοπρσστυφχ"),
    (0x1D6D9, "ψω∂εθκφρπαβγδεζηθικλμνξοπρθστυφχψω∇αβγδεζηθικλμν"),
    (0x1D709, "ξοπρσστυφχψω∂εθκφρπαβγδεζηθικλμνξοπρθστυφχψω∇αβγ"),
    (0x1D739, "δεζηθικλμνξοπρσστυφχψω∂εθκφρπαβγδεζηθικλμνξοπρθστ"),
    (0x1D76A, "υφχψω∇αβγδεζηθικλμνξοπρσστυφχψω∂εθκφρπαβγδεζηθικ"),
    (0x1D79A, "λμνξοπρθστυφχψω∇αβγδεζηθικλμνξοπρσστυφχψω∂εθκφρπ"),
    (0x1D7CA, "ϝϝ"),
    (0x1D7CE, "01234567890123456789012345678901234567890123456789"),
    (0x1E030, "абвгдежзиклмопрстуфхцчшыэюꚉәіјөүӏабвгдежзиклопсуф"),
    (0x1E061, "хцчшъыґіѕџҫꙑұ"), (0x1E900, "𞤢𞤣𞤤𞤥𞤦𞤧𞤨𞤩𞤪𞤫𞤬𞤭𞤮𞤯𞤰𞤱𞤲𞤳𞤴𞤵𞤶𞤷𞤸𞤹𞤺"),
    (0x1E919, "𞤻𞤼𞤽𞤾𞤿𞥀𞥁𞥂𞥃"), (0x1EE00, "\u0627\u0628\u062C\u062F"),
    (0x1EE05, "\u0648\u0632\u062D\u0637\u064A\u0643\u0644\u0645"),
    (0x1EE0D, "\u0646\u0633\u0639\u0641\u0635\u0642\u0631\u0634"),
    (0x1EE15, "\u062A\u062B\u062E\u0630\u0636\u0638\u063A\u066E"),
    (0x1EE1D, "\u06BA\u06A1\u066F"), (0x1EE21, "\u0628\u062C"),
    (0x1EE24, "\u0647"), (0x1EE27, "\u062D"),
    (0x1EE29, "\u064A\u0643\u0644\u0645\u0646\u0633\u0639\u0641"),
    (0x1EE31, "\u0635\u0642"), (0x1EE34, "\u0634\u062A\u062B\u062E"),
    (0x1EE39, "\u0636"), (0x1EE3B, "\u063A"), (0x1EE42, "\u062C"),
    (0x1EE47, "\u062D"), (0x1EE49, "\u064A"), (0x1EE4B, "\u0644"),
    (0x1EE4D, "\u0646\u0633\u0639"), (0x1EE51, "\u0635\u0642"),
    (0x1EE54, "\u0634"), (0x1EE57, "\u062E"), (0x1EE59, "\u0636"),
    (0x1EE5B, "\u063A"), (0x1EE5D, "\u06BA"), (0x1EE5F, "\u066F"),
    (0x1EE61, "\u0628\u062C"), (0x1EE64, "\u0647"),
    (0x1EE67, "\u062D\u0637\u064A\u0643"),
    (0x1EE6C, "\u0645\u0646\u0633\u0639\u0641\u0635\u0642"),
    (0x1EE74, "\u0634\u062A\u062B\u062E"),
    (0x1EE79, "\u0636\u0638\u063A\u066E"), (0x1EE7E, "\u06A1"),
    (0x1EE80, "\u0627\u0628\u062C\u062F\u0647\u0648\u0632\u062D"),
    (0x1EE88, "\u0637\u064A"),
    (0x1EE8B, "\u0644\u0645\u0646\u0633\u0639\u0641\u0635\u0642"),
    (0x1EE93, "\u0631\u0634\u062A\u062B\u062E\u0630\u0636\u0638"),
    (0x1EE9B, "\u063A"), (0x1EEA1, "\u0628\u062C\u062F"),
    (0x1EEA5, "\u0648\u0632\u062D\u0637\u064A"),
    (0x1EEAB, "\u0644\u0645\u0646\u0633\u0639\u0641\u0635\u0642"),
    (0x1EEB3, "\u0631\u0634\u062A\u062B\u062E\u0630\u0636\u0638"),
    (0x1EEBB, "\u063A"), (0x1F12B, "cr"),
    (0x1F130, "abcdefghijklmnopqrstuvwxyz"), (0x1F202, "サ"),
    (0x1F210, "手字双デ二多解天交映無料前後再新初終生販声吹演投捕"),
    (0x1F229, "一三遊左中右指走打禁空合満有月申割営配"), (0x1F250, "得可"),
    (0x1FBF0, "0123456789"), (0x2F800, "丽丸乁𠄢你侮侻倂偺備僧像㒞𠘺免兔兤具𠔜㒹內再𠕋冗冤"),
    (0x2F819, "仌冬况𩇟凵刃㓟刻剆割剷㔕勇勉勤勺包匆北卉卑博即卽卿"),
    (0x2F832, "卿卿𠨬灰及叟𠭣叫叱吆咞吸呈周咢哶唐啓啣善善喙喫喳嗂"),
    (0x2F84B, "圖嘆圗噑噴切壮城埴堍型堲報墬𡓤売壷夆多夢奢𡚨𡛪姬娛"),
    (0x2F864, "娧姘婦㛮㛼嬈嬾嬾𡧈寃寘寧寳𡬘寿将当尢㞁屠屮峀岍𡷤嵃"),
    (0x2F87D, "𡷦嵮嵫嵼巡巢㠯巽帨帽幩㡢𢆃㡼庰庳庶廊𪎒廾𢌱𢌱舁弢弢"),
    (0x2F896, "㣇𣊸𦇚形彫㣣徚忍志忹悁㤺㤜悔𢛔惇慈慌慎慌慺憎憲憤憯"),
    (0x2F8AF, "懞懲懶成戛扝抱拔捐𢬌挽拼捨掃揤𢯱搢揅掩㨮摩摾撝摷㩬"),
    (0x2F8C8, "敏敬𣀊旣書晉㬙暑㬈㫤冒冕最暜肭䏙朗望朡杞杓𣏃㭉柺枅"),
    (0x2F8E1, "桒梅𣑭梎栟椔㮝楂榣槪檨𣚣櫛㰘次𣢧歔㱎歲殟殺殻𣪍𡴋𣫺"),
    (0x2F8FA, "汎𣲼沿泍汧洖派海流浩浸涅𣴞洴港湮㴳滋滇𣻑淹潮𣽞𣾎濆"),
    (0x2F913, "瀹瀞瀛㶖灊災灷炭𠔥煅𤉣熜𤎫爨爵牐𤘈犀犕𤜵𤠔獺王㺬玥"),
    (0x2F92C, "㺸㺸瑇瑜瑱璅瓊㼛甤𤰶甾𤲒異𢆟瘐𤾡𤾸𥁄㿼䀈直𥃳𥃲𥄙𥄳"),
    (0x2F945, "眞真真睊䀹瞋䁆䂖𥐝硎碌磌䃣𥘦祖𥚚𥛅福秫䄯穀穊穏𥥼𥪧"),
    (0x2F95E, "𥪧竮䈂𥮫篆築䈧𥲀糒䊠糨糣紀𥾆絣䌁緇縂繅䌴𦈨𦉇䍙𦋙罺"),
    (0x2F977, "𦌾羕翺者𦓚𦔣聠𦖨聰𣍟䏕育脃䐋脾媵𦞧𦞵𣎓𣎜舁舄辞䑫芑"),
    (0x2F990, "芋芝劳花芳芽苦𦬼若茝荣莭茣莽菧著荓菊菌菜𦰶𦵫𦳕䔫蓱"),
    (0x2F9A9, "蓳蔖𧏊蕤𦼬䕝䕡𦾱𧃒䕫虐虜虧虩蚩蚈蜎蛢蝹蜨蝫螆䗗蟡蠁"),
    (0x2F9C2, "䗹衠衣𧙧裗裞䘵裺㒻𧢮𧥦䚾䛇誠諭變豕𧲨貫賁贛起𧼯𠠄跋"),
    (0x2F9DB, "趼跰𠣞軔輸𨗒𨗭邔郱鄑𨜮鄛鈸鋗鋘鉼鏹鐕𨯺開䦕閷𨵷䧦雃"),
    (0x2F9F4, "嶲霣𩅅𩈚䩮䩶韠𩐊䪲𩒖頋頋頩𩖶飢䬳餩馧駂駾䯎𩬰鬒鱀鳽"),
    (0x2FA0D, "䳎䳭鵧𪃎䳸𪄅𪈎𪊑麻䵖黹黾鼅鼏鼖鼻𪘀")]

/- Characters whose image has more than one character. -/
def expansions : List (Nat × String) :=
  [(0x00A8, " \u0308"), (0x00AF, " \u0304"), (0x00B4, " \u0301"),
    (0x00B8, " \u0327"), (0x00BC, "1⁄4"), (0x00BD, "1⁄2"),
    (0x00BE, "3⁄4"), (0x0130, "i\u0307"), (0x0132, "ij"),
    (0x0133, "ij"), (0x013F, "l·"), (0x0140, "l·"), (0x0149, "ʼn"),
    (0x01C4, "dž"), (0x01C5, "dž"), (0x01C6, "dž"), (0x01C7, "lj"),
    (0x01C8, "lj"), (0x01C9, "lj"), (0x01CA, "nj"), (0x01CB, "nj"),
    (0x01CC, "nj"), (0x01F1, "dz"), (0x01F2, "dz"), (0x01F3, "dz"),
    (0x02D8, " \u0306"), (0x02D9, " \u0307"), (0x02DA, " \u030A"),
    (0x02DB, " \u0328"), (0x02DC, " \u0303"), (0x02DD, " \u030B"),
    (0x0344, "\u0308\u0301"), (0x037A, " ι"), (0x0384, " \u0301"),
    (0x0385, " \u0308\u0301"), (0x0587, "եւ"), (0x0675, "\u0627\u0674"),
    (0x0676, "\u0648\u0674"), (0x0677, "\u06C7\u0674"),
    (0x0678, "\u064A\u0674"), (0x0958, "क\u093C"), (0x0959, "ख\u093C"),
    (0x095A, "ग\u093C"), (0x095B, "ज\u093C"), (0x095C, "ड\u093C"),
    (0x095D, "ढ\u093C"), (0x095E, "फ\u093C"), (0x095F, "य\u093C"),
    (0x09DC, "ড\u09BC"), (0x09DD, "ঢ\u09BC"), (0x09DF, "য\u09BC"),
    (0x0A33, "ਲ\u0A3C"), (0x0A36, "ਸ\u0A3C"), (0x0A59, "ਖ\u0A3C"),
    (0x0A5A, "ਗ\u0A3C"), (0x0A5B, "ਜ\u0A3C"), (0x0A5E, "ਫ\u0A3C"),
    (0x0B5C, "ଡ\u0B3C"), (0x0B5D, "ଢ\u0B3C"), (0x0E33, "\u0E4Dา"),
    (0x0EB3, "\u0ECDາ"), (0x0EDC, "ຫນ"), (0x0EDD, "ຫມ"),
    (0x0F43, "ག\u0FB7"), (0x0F4D, "ཌ\u0FB7"), (0x0F52, "ད\u0FB7"),
    (0x0F57, "བ\u0FB7"), (0x0F5C, "ཛ\u0FB7"), (0x0F69, "ཀ\u0FB5"),
    (0x0F73, "\u0F71\u0F72"), (0x0F75, "\u0F71\u0F74"),
    (0x0F76, "\u0FB2\u0F80"), (0x0F77, "\u0FB2\u0F71\u0F80"),
    (0x0F78, "\u0FB3\u0F80"), (0x0F79, "\u0FB3\u0F71\u0F80"),
    (0x0F81, "\u0F71\u0F80"), (0x0F93, "\u0F92\u0FB7"),
    (0x0F9D, "\u0F9C\u0FB7"), (0x0FA2, "\u0FA1\u0FB7"),
    (0x0FA7, "\u0FA6\u0FB7"), (0x0FAC, "\u0FAB\u0FB7"),
    (0x0FB9, "\u0F90\u0FB5"), (0x1E9A, "aʾ"), (0x1F80, "ἀι"),
    (0x1F81, "ἁι"), (0x1F82, "ἂι"), (0x1F83, "ἃι"), (0x1F84, "ἄι"),
    (0x1F85, "ἅι"), (0x1F86, "ἆι"), (0x1F87, "ἇι"), (0x1F88, "ἀι"),
    (0x1F89, "ἁι"), (0x1F8A, "ἂι"), (0x1F8B, "ἃι"), (0x1F8C, "ἄι"),
    (0x1F8D, "ἅι"), (0x1F8E, "ἆι"), (0x1F8F, "ἇι"), (0x1F90, "ἠι"),
    (0x1F91, "ἡι"), (0x1F92, "ἢι"), (0x1F93, "ἣι"), (0x1F94, "ἤι"),
    (0x1F95, "ἥι"), (0x1F96, "ἦι"), (0x1F97, "ἧι"), (0x1F98, "ἠι"),
    (0x1F99, "ἡι"), (0x1F9A, "ἢι"), (0x1F9B, "ἣι"), (0x1F9C, "ἤι"),
    (0x1F9D, "ἥι"), (0x1F9E, "ἦι"), (0x1F9F, "ἧι"), (0x1FA0, "ὠι"),
    (0x1FA1, "ὡι"), (0x1FA2, "ὢι"), (0x1FA3, "ὣι"), (0x1FA4, "ὤι"),
    (0x1FA5, "ὥι"), (0x1FA6, "ὦι"), (0x1FA7, "ὧι"), (0x1FA8, "ὠι"),
    (0x1FA9, "ὡι"), (0x1FAA, "ὢι"), (0x1FAB, "ὣι"), (0x1FAC, "ὤι"),
    (0x1FAD, "ὥι"), (0x1FAE, "ὦι"), (0x1FAF, "ὧι"), (0x1FB2, "ὰι"),
    (0x1FB3, "αι"), (0x1FB4, "άι"), (0x1FB7, "ᾶι"), (0x1FBC, "αι"),
    (0x1FBD, " \u0313"), (0x1FBF, " \u0313"), (0x1FC0, " \u0342"),
    (0x1FC1, " \u0308\u0342"), (0x1FC2, "ὴι"), (0x1FC3, "ηι"),
    (0x1FC4, "ήι"), (0x1FC7, "ῆι"), (0x1FCC, "ηι"),
    (0x1FCD, " \u0313\u0300"), (0x1FCE, " \u0313\u0301"),
    (0x1FCF, " \u0313\u0342"), (0x1FDD, " \u0314\u0300"),
    (0x1FDE, " \u0314\u0301"), (0x1FDF, " \u0314\u0342"),
    (0x1FED, " \u0308\u0300"), (0x1FEE, " \u0308\u0301"),
    (0x1FF2, "ὼι"), (0x1FF3, "ωι"), (0x1FF4, "ώι"), (0x1FF7, "ῶι"),
    (0x1FFC, "ωι"), (0x1FFD, " \u0301"), (0x1FFE, " \u0314"),
    (0x2017, " \u0333"), (0x2033, "′′"), (0x2034, "′′′"),
    (0x2036, "‵‵"), (0x2037, "‵‵‵"), (0x203C, "!!"),
    (0x203E, " \u0305"), (0x2047, "??"), (0x2048, "?!"), (0x2049, "!?"),
    (0x2057, "′′′′"), (0x20A8, "rs"), (0x2100, "a/c"), (0x2101, "a/s"),
    (0x2103, "°c"), (0x2105, "c/o"), (0x2106, "c/u"), (0x2109, "°f"),
    (0x2116, "no"), (0x2120, "sm"), (0x2121, "tel"), (0x2122, "tm"),
    (0x213B, "fax"), (0x2150, "1⁄7"), (0x2151, "1⁄9"), (0x2152, "1⁄10"),
    (0x2153, "1⁄3"), (0x2154, "2⁄3"), (0x2155, "1⁄5"), (0x2156, "2⁄5"),
    (0x2157, "3⁄5"), (0x2158, "4⁄5"), (0x2159, "1⁄6"), (0x215A, "5⁄6"),
    (0x215B, "1⁄8"), (0x215C, "3⁄8"), (0x215D, "5⁄8"), (0x215E, "7⁄8"),
    (0x215F, "1⁄"), (0x2161, "ii"), (0x2162, "iii"), (0x2163, "iv"),
    (0x2165, "vi"), (0x2166, "vii"), (0x2167, "viii"), (0x2168, "ix"),
    (0x216A, "xi"), (0x216B, "xii"), (0x2171, "ii"), (0x2172, "iii"),
    (0x2173, "iv"), (0x2175, "vi"), (0x2176, "vii"), (0x2177, "viii"),
    (0x2178, "ix"), (0x217A, "xi"), (0x217B, "xii"), (0x2189, "0⁄3"),
    (0x222C, "∫∫"), (0x222D, "∫∫∫"), (0x222F, "∮∮"), (0x2230, "∮∮∮"),
    (0x2469, "10"), (0x246A, "11"), (0x246B, "12"), (0x246C, "13"),
    (0x246D, "14"), (0x246E, "15"), (0x246F, "16"), (0x2470, "17"),
    (0x2471, "18"), (0x2472, "19"), (0x2473, "20"), (0x2474, "(1)"),
    (0x2475, "(2)"), (0x2476, "(3)"), (0x2477, "(4)"), (0x2478, "(5)"),
    (0x2479, "(6)"), (0x247A, "(7)"), (0x247B, "(8)"), (0x247C, "(9)"),
    (0x247D, "(10)"), (0x247E, "(11)"), (0x247F, "(12)"),
    (0x2480, "(13)"), (0x2481, "(14)"), (0x2482, "(15)"),
    (0x2483, "(16)"), (0x2484, "(17)"), (0x2485, "(18)"),
    (0x2486, "(19)"), (0x2487, "(20)"), (0x249C, "(a)"),
    (0x249D, "(b)"), (0x249E, "(c)"), (0x249F, "(d)"), (0x24A0, "(e)"),
    (0x24A1, "(f)"), (0x24A2, "(g)"), (0x24A3, "(h)"), (0x24A4, "(i)"),
    (0x24A5, "(j)"), (0x24A6, "(k)"), (0x24A7, "(l)"), (0x24A8, "(m)"),
    (0x24A9, "(n)"), (0x24AA, "(o)"), (0x24AB, "(p)"), (0x24AC, "(q)"),
    (0x24AD, "(r)"), (0x24AE, "(s)"), (0x24AF, "(t)"), (0x24B0, "(u)"),
    (0x24B1, "(v)"), (0x24B2, "(w)"), (0x24B3, "(x)"), (0x24B4, "(y)"),
    (0x24B5, "(z)"), (0x2A0C, "∫∫∫∫"), (0x2A74, "::="), (0x2A75, "=="),
    (0x2A76, "==="), (0x2ADC, "⫝\u0338"), (0x309B, " \u3099"),
    (0x309C, " \u309A"), (0x309F, "より"), (0x30FF, "コト"),
    (0x3200, "(ᄀ)"), (0x3201, "(ᄂ)"), (0x3202, "(ᄃ)"), (0x3203, "(ᄅ)"),
    (0x3204, "(ᄆ)"), (0x3205, "(ᄇ)"), (0x3206, "(ᄉ)"), (0x3207, "(ᄋ)"),
    (0x3208, "(ᄌ)"), (0x3209, "(ᄎ)"), (0x320A, "(ᄏ)"), (0x320B, "(ᄐ)"),
    (0x320C, "(ᄑ)"), (0x320D, "(ᄒ)"), (0x320E, "(가)"), (0x320F, "(나)"),
    (0x3210, "(다)"), (0x3211, "(라)"), (0x3212, "(마)"), (0x3213, "(바)"),
    (0x3214, "(사)"), (0x3215, "(아)"), (0x3216, "(자)"), (0x3217, "(차)"),
    (0x3218, "(카)"), (0x3219, "(타)"), (0x321A, "(파)"), (0x321B, "(하)"),
    (0x321C, "(주)"), (0x321D, "(오전)"), (0x321E, "(오후)"),
    (0x3220, "(一)"), (0x3221, "(二)"), (0x3222, "(三)"), (0x3223, "(四)"),
    (0x3224, "(五)"), (0x3225, "(六)"), (0x3226, "(七)"), (0x3227, "(八)"),
    (0x3228, "(九)"), (0x3229, "(十)"), (0x322A, "(月)"), (0x322B, "(火)"),
    (0x322C, "(水)"), (0x322D, "(木)"), (0x322E, "(金)"), (0x322F, "(土)"),
    (0x3230, "(日)"), (0x3231, "(株)"), (0x3232, "(有)"), (0x3233, "(社)"),
    (0x3234, "(名)"), (0x3235, "(特)"), (0x3236, "(財)"), (0x3237, "(祝)"),
    (0x3238, "(労)"), (0x3239, "(代)"), (0x323A, "(呼)"), (0x323B, "(学)"),
    (0x323C, "(監)"), (0x323D, "(企)"), (0x323E, "(資)"), (0x323F, "(協)"),
    (0x3240, "(祭)"), (0x3241, "(休)"), (0x3242, "(自)"), (0x3243, "(至)"),
    (0x3250, "pte"), (0x3251, "21"), (0x3252, "22"), (0x3253, "23"),
    (0x3254, "24"), (0x3255, "25"), (0x3256, "26"), (0x3257, "27"),
    (0x3258, "28"), (0x3259, "29"), (0x325A, "30"), (0x325B, "31"),
    (0x325C, "32"), (0x325D, "33"), (0x325E, "34"), (0x325F, "35"),
    (0x327C, "참고"), (0x327D, "주의"), (0x32B1, "36"), (0x32B2, "37"),
    (0x32B3, "38"), (0x32B4, "39"), (0x32B5, "40"), (0x32B6, "41"),
    (0x32B7, "42"), (0x32B8, "43"), (0x32B9, "44"), (0x32BA, "45"),
    (0x32BB, "46"), (0x32BC, "47"), (0x32BD, "48"), (0x32BE, "49"),
    (0x32BF, "50"), (0x32C0, "1月"), (0x32C1, "2月"), (0x32C2, "3月"),
    (0x32C3, "4月"), (0x32C4, "5月"), (0x32C5, "6月"), (0x32C6, "7月"),
    (0x32C7, "8月"), (0x32C8, "9月"), (0x32C9, "10月"), (0x32CA, "11月"),
    (0x32CB, "12月"), (0x32CC, "hg"), (0x32CD, "erg"), (0x32CE, "ev"),
    (0x32CF, "ltd"), (0x32FF, "令和"), (0x3300, "アパート"), (0x3301, "アルファ"),
    (0x3302, "アンペア"), (0x3303, "アール"), (0x3304, "イニング"),
    (0x3305, "インチ"), (0x3306, "ウォン"), (0x3307, "エスクード"),
    (0x3308, "エーカー"), (0x3309, "オンス"), (0x330A, "オーム"), (0x330B, "カイリ"),
    (0x330C, "カラット"), (0x330D, "カロリー"), (0x330E, "ガロン"),
    (0x330F, "ガンマ"), (0x3310, "ギガ"), (0x3311, "ギニー"), (0x3312, "キュリー"),
    (0x3313, "ギルダー"), (0x3314, "キロ"), (0x3315, "キログラム"),
    (0x3316, "キロメートル"), (0x3317, "キロワット"), (0x3318, "グラム"),
    (0x3319, "グラムトン"), (0x331A, "クルゼイロ"), (0x331B, "クローネ"),
    (0x331C, "ケース"), (0x331D, "コルナ"), (0x331E, "コーポ"), (0x331F, "サイクル"),
    (0x3320, "サンチーム"), (0x3321, "シリング"), (0x3322, "センチ"),
    (0x3323, "セント"), (0x3324, "ダース"), (0x3325, "デシ"), (0x3326, "ドル"),
    (0x3327, "トン"), (0x3328, "ナノ"), (0x3329, "ノット"), (0x332A, "ハイツ"),
    (0x332B, "パーセント"), (0x332C, "パーツ"), (0x332D, "バーレル"),
    (0x332E, "ピアストル"), (0x332F, "ピクル"), (0x3330, "ピコ"), (0x3331, "ビル"),
    (0x3332, "ファラッド"), (0x3333, "フィート"), (0x3334, "ブッシェル"),
    (0x3335, "フラン"), (0x3336, "ヘクタール"), (0x3337, "ペソ"), (0x3338, "ペニヒ"),
    (0x3339, "ヘルツ"), (0x333A, "ペンス"), (0x333B, "ページ"), (0x333C, "ベータ"),
    (0x333D, "ポイント"), (0x333E, "ボルト"), (0x333F, "ホン"), (0x3340, "ポンド"),
    (0x3341, "ホール"), (0x3342, "ホーン"), (0x3343, "マイクロ"), (0x3344, "マイル"),
    (0x3345, "マッハ"), (0x3346, "マルク"), (0x3347, "マンション"),
    (0x3348, "ミクロン"), (0x3349, "ミリ"), (0x334A, "ミリバール"), (0x334B, "メガ"),
    (0x334C, "メガトン"), (0x334D, "メートル"), (0x334E, "ヤード"),
    (0x334F, "ヤール"), (0x3350, "ユアン"), (0x3351, "リットル"), (0x3352, "リラ"),
    (0x3353, "ルピー"), (0x3354, "ルーブル"), (0x3355, "レム"),
    (0x3356, "レントゲン"), (0x3357, "ワット"), (0x3358, "0点"), (0x3359, "1点"),
    (0x335A, "2点"), (0x335B, "3点"), (0x335C, "4点"), (0x335D, "5点"),
    (0x335E, "6点"), (0x335F, "7点"), (0x3360, "8点"), (0x3361, "9点"),
    (0x3362, "10点"), (0x3363, "11点"), (0x3364, "12点"), (0x3365, "13点"),
    (0x3366, "14点"), (0x3367, "15点"), (0x3368, "16点"), (0x3369, "17点"),
    (0x336A, "18点"), (0x336B, "19点"), (0x336C, "20点"), (0x336D, "21点"),
    (0x336E, "22点"), (0x336F, "23点"), (0x3370, "24点"), (0x3371, "hpa"),
    (0x3372, "da"), (0x3373, "au"), (0x3374, "bar"), (0x3375, "ov"),
    (0x3376, "pc"), (0x3377, "dm"), (0x3378, "dm2"), (0x3379, "dm3"),
    (0x337A, "iu"), (0x337B, "平成"), (0x337C, "昭和"), (0x337D, "大正"),
    (0x337E, "明治"), (0x337F, "株式会社"), (0x3380, "pa"), (0x3381, "na"),
    (0x3382, "μa"), (0x3383, "ma"), (0x3384, "ka"), (0x3385, "kb"),
    (0x3386, "mb"), (0x3387, "gb"), (0x3388, "cal"), (0x3389, "kcal"),
    (0x338A, "pf"), (0x338B, "nf"), (0x338C, "μf"), (0x338D, "μg"),
    (0x338E, "mg"), (0x338F, "kg"), (0x3390, "hz"), (0x3391, "khz"),
    (0x3392, "mhz"), (0x3393, "ghz"), (0x3394, "thz"), (0x3395, "μl"),
    (0x3396, "ml"), (0x3397, "dl"), (0x3398, "kl"), (0x3399, "fm"),
    (0x339A, "nm"), (0x339B, "μm"), (0x339C, "mm"), (0x339D, "cm"),
    (0x339E, "km"), (0x339F, "mm2"), (0x33A0, "cm2"), (0x33A1, "m2"),
    (0x33A2, "km2"), (0x33A3, "mm3"), (0x33A4, "cm3"), (0x33A5, "m3"),
    (0x33A6, "km3"), (0x33A7, "m∕s"), (0x33A8, "m∕s2"), (0x33A9, "pa"),
    (0x33AA, "kpa"), (0x33AB, "mpa"), (0x33AC, "gpa"), (0x33AD, "rad"),
    (0x33AE, "rad∕s"), (0x33AF, "rad∕s2"), (0x33B0, "ps"),
    (0x33B1, "ns"), (0x33B2, "μs"), (0x33B3, "ms"), (0x33B4, "pv"),
    (0x33B5, "nv"), (0x33B6, "μv"), (0x33B7, "mv"), (0x33B8, "kv"),
    (0x33B9, "mv"), (0x33BA, "pw"), (0x33BB, "nw"), (0x33BC, "μw"),
    (0x33BD, "mw"), (0x33BE, "kw"), (0x33BF, "mw"), (0x33C0, "kω"),
    (0x33C1, "mω"), (0x33C3, "bq"), (0x33C4, "cc"), (0x33C5, "cd"),
    (0x33C6, "c∕kg"), (0x33C8, "db"), (0x33C9, "gy"), (0x33CA, "ha"),
    (0x33CB, "hp"), (0x33CC, "in"), (0x33CD, "kk"), (0x33CE, "km"),
    (0x33CF, "kt"), (0x33D0, "lm"), (0x33D1, "ln"), (0x33D2, "log"),
    (0x33D3, "lx"), (0x33D4, "mb"), (0x33D5, "mil"), (0x33D6, "mol"),
    (0x33D7, "ph"), (0x33D9, "ppm"), (0x33DA, "pr"), (0x33DB, "sr"),
    (0x33DC, "sv"), (0x33DD, "wb"), (0x33DE, "v∕m"), (0x33DF, "a∕m"),
    (0x33E0, "1日"), (0x33E1, "2日"), (0x33E2, "3日"), (0x33E3, "4日"),
    (0x33E4, "5日"), (0x33E5, "6日"), (0x33E6, "7日"), (0x33E7, "8日"),
    (0x33E8, "9日"), (0x33E9, "10日"), (0x33EA, "11日"), (0x33EB, "12日"),
    (0x33EC, "13日"), (0x33ED, "14日"), (0x33EE, "15日"), (0x33EF, "16日"),
    (0x33F0, "17日"), (0x33F1, "18日"), (0x33F2, "19日"), (0x33F3, "20日"),
    (0x33F4, "21日"), (0x33F5, "22日"), (0x33F6, "23日"), (0x33F7, "24日"),
    (0x33F8, "25日"), (0x33F9, "26日"), (0x33FA, "27日"), (0x33FB, "28日"),
    (0x33FC, "29日"), (0x33FD, "30日"), (0x33FE, "31日"), (0x33FF, "gal"),
    (0xFB00, "ff"), (0xFB01, "fi"), (0xFB02, "fl"), (0xFB03, "ffi"),
    (0xFB04, "ffl"), (0xFB05, "st"), (0xFB06, "st"), (0xFB13, "մն"),
    (0xFB14, "մե"), (0xFB15, "մի"), (0xFB16, "վն"), (0xFB17, "մխ"),
    (0xFB1D, "\u05D9\u05B4"), (0xFB1F, "\u05F2\u05B7"),
    (0xFB2A, "\u05E9\u05C1"), (0xFB2B, "\u05E9\u05C2"),
    (0xFB2C, "\u05E9\u05BC\u05C1"), (0xFB2D, "\u05E9\u05BC\u05C2"),
    (0xFB2E, "\u05D0\u05B7"), (0xFB2F, "\u05D0\u05B8"),
    (0xFB30, "\u05D0\u05BC"), (0xFB31, "\u05D1\u05BC"),
    (0xFB32, "\u05D2\u05BC"), (0xFB33, "\u05D3\u05BC"),
    (0xFB34, "\u05D4\u05BC"), (0xFB35, "\u05D5\u05BC"),
    (0xFB36, "\u05D6\u05BC"), (0xFB38, "\u05D8\u05BC"),
    (0xFB39, "\u05D9\u05BC"), (0xFB3A, "\u05DA\u05BC"),
    (0xFB3B, "\u05DB\u05BC"), (0xFB3C, "\u05DC\u05BC"),
    (0xFB3E, "\u05DE\u05BC"), (0xFB40, "\u05E0\u05BC"),
    (0xFB41, "\u05E1\u05BC"), (0xFB43, "\u05E3\u05BC"),
    (0xFB44, "\u05E4\u05BC"), (0xFB46, "\u05E6\u05BC"),
    (0xFB47, "\u05E7\u05BC"), (0xFB48, "\u05E8\u05BC"),
    (0xFB49, "\u05E9\u05BC"), (0xFB4A, "\u05EA\u05BC"),
    (0xFB4B, "\u05D5\u05B9"), (0xFB4C, "\u05D1\u05BF"),
    (0xFB4D, "\u05DB\u05BF"), (0xFB4E, "\u05E4\u05BF"),
    (0xFB4F, "\u05D0\u05DC"), (0xFBDD, "\u06C7\u0674"),
    (0xFBEA, "\u0626\u0627"), (0xFBEB, "\u0626\u0627"),
    (0xFBEC, "\u0626\u06D5"), (0xFBED, "\u0626\u06D5"),
    (0xFBEE, "\u0626\u0648"), (0xFBEF, "\u0626\u0648"),
    (0xFBF0, "\u0626\u06C7"), (0xFBF1, "\u0626\u06C7"),
    (0xFBF2, "\u0626\u06C6"), (0xFBF3, "\u0626\u06C6"),
    (0xFBF4, "\u0626\u06C8"), (0xFBF5, "\u0626\u06C8"),
    (0xFBF6, "\u0626\u06D0"), (0xFBF7, "\u0626\u06D0"),
    (0xFBF8, "\u0626\u06D0"), (0xFBF9, "\u0626\u0649"),
    (0xFBFA, "\u0626\u0649"), (0xFBFB, "\u0626\u0649"),
    (0xFC00, "\u0626\u062C"), (0xFC01, "\u0626\u062D"),
    (0xFC02, "\u0626\u0645"), (0xFC03, "\u0626\u0649"),
    (0xFC04, "\u0626\u064A"), (0xFC05, "\u0628\u062C"),
    (0xFC06, "\u0628\u062D"), (0xFC07, "\u0628\u062E"),
    (0xFC08, "\u0628\u0645"), (0xFC09, "\u0628\u0649"),
    (0xFC0A, "\u0628\u064A"), (0xFC0B, "\u062A\u062C"),
    (0xFC0C, "\u062A\u062D"), (0xFC0D, "\u062A\u062E"),
    (0xFC0E, "\u062A\u0645"), (0xFC0F, "\u062A\u0649"),
    (0xFC10, "\u062A\u064A"), (0xFC11, "\u062B\u062C"),
    (0xFC12, "\u062B\u0645"), (0xFC13, "\u062B\u0649"),
    (0xFC14, "\u062B\u064A"), (0xFC15, "\u062C\u062D"),
    (0xFC16, "\u062C\u0645"), (0xFC17, "\u062D\u062C"),
    (0xFC18, "\u062D\u0645"), (0xFC19, "\u062E\u062C"),
    (0xFC1A, "\u062E\u062D"), (0xFC1B, "\u062E\u0645"),
    (0xFC1C, "\u0633\u062C"), (0xFC1D, "\u0633\u062D"),
    (0xFC1E, "\u0633\u062E"), (0xFC1F, "\u0633\u0645"),
    (0xFC20, "\u0635\u062D"), (0xFC21, "\u0635\u0645"),
    (0xFC22, "\u0636\u062C"), (0xFC23, "\u0636\u062D"),
    (0xFC24, "\u0636\u062E"), (0xFC25, "\u0636\u0645"),
    (0xFC26, "\u0637\u062D"), (0xFC27, "\u0637\u0645"),
    (0xFC28, "\u0638\u0645"), (0xFC29, "\u0639\u062C"),
    (0xFC2A, "\u0639\u0645"), (0xFC2B, "\u063A\u062C"),
    (0xFC2C, "\u063A\u0645"), (0xFC2D, "\u0641\u062C"),
    (0xFC2E, "\u0641\u062D"), (0xFC2F, "\u0641\u062E"),
    (0xFC30, "\u0641\u0645"), (0xFC31, "\u0641\u0649"),
    (0xFC32, "\u0641\u064A"), (0xFC33, "\u0642\u062D"),
    (0xFC34, "\u0642\u0645"), (0xFC35, "\u0642\u0649"),
    (0xFC36, "\u0642\u064A"), (0xFC37, "\u0643\u0627"),
    (0xFC38, "\u0643\u062C"), (0xFC39, "\u0643\u062D"),
    (0xFC3A, "\u0643\u062E"), (0xFC3B, "\u0643\u0644"),
    (0xFC3C, "\u0643\u0645"), (0xFC3D, "\u0643\u0649"),
    (0xFC3E, "\u0643\u064A"), (0xFC3F, "\u0644\u062C"),
    (0xFC40, "\u0644\u062D"), (0xFC41, "\u0644\u062E"),
    (0xFC42, "\u0644\u0645"), (0xFC43, "\u0644\u0649"),
    (0xFC44, "\u0644\u064A"), (0xFC45, "\u0645\u062C"),
    (0xFC46, "\u0645\u062D"), (0xFC47, "\u0645\u062E"),
    (0xFC48, "\u0645\u0645"), (0xFC49, "\u0645\u0649"),
    (0xFC4A, "\u0645\u064A"), (0xFC4B, "\u0646\u062C"),
    (0xFC4C, "\u0646\u062D"), (0xFC4D, "\u0646\u062E"),
    (0xFC4E, "\u0646\u0645"), (0xFC4F, "\u0646\u0649"),
    (0xFC50, "\u0646\u064A"), (0xFC51, "\u0647\u062C"),
    (0xFC52, "\u0647\u0645"), (0xFC53, "\u0647\u0649"),
    (0xFC54, "\u0647\u064A"), (0xFC55, "\u064A\u062C"),
    (0xFC56, "\u064A\u062D"), (0xFC57, "\u064A\u062E"),
    (0xFC58, "\u064A\u0645"), (0xFC59, "\u064A\u0649"),
    (0xFC5A, "\u064A\u064A"), (0xFC5B, "\u0630\u0670"),
    (0xFC5C, "\u0631\u0670"), (0xFC5D, "\u0649\u0670"),
    (0xFC5E, " \u064C\u0651"), (0xFC5F, " \u064D\u0651"),
    (0xFC60, " \u064E\u0651"), (0xFC61, " \u064F\u0651"),
    (0xFC62, " \u0650\u0651"), (0xFC63, " \u0651\u0670"),
    (0xFC64, "\u0626\u0631"), (0xFC65, "\u0626\u0632"),
    (0xFC66, "\u0626\u0645"), (0xFC67, "\u0626\u0646"),
    (0xFC68, "\u0626\u0649"), (0xFC69, "\u0626\u064A"),
    (0xFC6A, "\u0628\u0631"), (0xFC6B, "\u0628\u0632"),
    (0xFC6C, "\u0628\u0645"), (0xFC6D, "\u0628\u0646"),
    (0xFC6E, "\u0628\u0649"), (0xFC6F, "\u0628\u064A"),
    (0xFC70, "\u062A\u0631"), (0xFC71, "\u062A\u0632"),
    (0xFC72, "\u062A\u0645"), (0xFC73, "\u062A\u0646"),
    (0xFC74, "\u062A\u0649"), (0xFC75, "\u062A\u064A"),
    (0xFC76, "\u062B\u0631"), (0xFC77, "\u062B\u0632"),
    (0xFC78, "\u062B\u0645"), (0xFC79, "\u062B\u0646"),
    (0xFC7A, "\u062B\u0649"), (0xFC7B, "\u062B\u064A"),
    (0xFC7C, "\u0641\u0649"), (0xFC7D, "\u0641\u064A"),
    (0xFC7E, "\u0642\u0649"), (0xFC7F, "\u0642\u064A"),
    (0xFC80, "\u0643\u0627"), (0xFC81, "\u0643\u0644"),
    (0xFC82, "\u0643\u0645"), (0xFC83, "\u0643\u0649"),
    (0xFC84, "\u0643\u064A"), (0xFC85, "\u0644\u0645"),
    (0xFC86, "\u0644\u0649"), (0xFC87, "\u0644\u064A"),
    (0xFC88, "\u0645\u0627"), (0xFC89, "\u0645\u0645"),
    (0xFC8A, "\u0646\u0631"), (0xFC8B, "\u0646\u0632"),
    (0xFC8C, "\u0646\u0645"), (0xFC8D, "\u0646\u0646"),
    (0xFC8E, "\u0646\u0649"), (0xFC8F, "\u0646\u064A"),
    (0xFC90, "\u0649\u0670"), (0xFC91, "\u064A\u0631"),
    (0xFC92, "\u064A\u0632"), (0xFC93, "\u064A\u0645"),
    (0xFC94, "\u064A\u0646"), (0xFC95, "\u064A\u0649"),
    (0xFC96, "\u064A\u064A"), (0xFC97, "\u0626\u062C"),
    (0xFC98, "\u0626\u062D"), (0xFC99, "\u0626\u062E"),
    (0xFC9A, "\u0626\u0645"), (0xFC9B, "\u0626\u0647"),
    (0xFC9C, "\u0628\u062C"), (0xFC9D, "\u0628\u062D"),
    (0xFC9E, "\u0628\u062E"), (0xFC9F, "\u0628\u0645"),
    (0xFCA0, "\u0628\u0647"), (0xFCA1, "\u062A\u062C"),
    (0xFCA2, "\u062A\u062D"), (0xFCA3, "\u062A\u062E"),
    (0xFCA4, "\u062A\u0645"), (0xFCA5, "\u062A\u0647"),
    (0xFCA6, "\u062B\u0645"), (0xFCA7, "\u062C\u062D"),
    (0xFCA8, "\u062C\u0645"), (0xFCA9, "\u062D\u062C"),
    (0xFCAA, "\u062D\u0645"), (0xFCAB, "\u062E\u062C"),
    (0xFCAC, "\u062E\u0645"), (0xFCAD, "\u0633\u062C"),
    (0xFCAE, "\u0633\u062D"), (0xFCAF, "\u0633\u062E"),
    (0xFCB0, "\u0633\u0645"), (0xFCB1, "\u0635\u062D"),
    (0xFCB2, "\u0635\u062E"), (0xFCB3, "\u0635\u0645"),
    (0xFCB4, "\u0636\u062C"), (0xFCB5, "\u0636\u062D"),
    (0xFCB6, "\u0636\u062E"), (0xFCB7, "\u0636\u0645"),
    (0xFCB8, "\u0637\u062D"), (0xFCB9, "\u0638\u0645"),
    (0xFCBA, "\u0639\u062C"), (0xFCBB, "\u0639\u0645"),
    (0xFCBC, "\u063A\u062C"), (0xFCBD, "\u063A\u0645"),
    (0xFCBE, "\u0641\u062C"), (0xFCBF, "\u0641\u062D"),
    (0xFCC0, "\u0641\u062E"), (0xFCC1, "\u0641\u0645"),
    (0xFCC2, "\u0642\u062D"), (0xFCC3, "\u0642\u0645"),
    (0xFCC4, "\u0643\u062C"), (0xFCC5, "\u0643\u062D"),
    (0xFCC6, "\u0643\u062E"), (0xFCC7, "\u0643\u0644"),
    (0xFCC8, "\u0643\u0645"), (0xFCC9, "\u0644\u062C"),
    (0xFCCA, "\u0644\u062D"), (0xFCCB, "\u0644\u062E"),
    (0xFCCC, "\u0644\u0645"), (0xFCCD, "\u0644\u0647"),
    (0xFCCE, "\u0645\u062C"), (0xFCCF, "\u0645\u062D"),
    (0xFCD0, "\u0645\u062E"), (0xFCD1, "\u0645\u0645"),
    (0xFCD2, "\u0646\u062C"), (0xFCD3, "\u0646\u062D"),
    (0xFCD4, "\u0646\u062E"), (0xFCD5, "\u0646\u0645"),
    (0xFCD6, "\u0646\u0647"), (0xFCD7, "\u0647\u062C"),
    (0xFCD8, "\u0647\u0645"), (0xFCD9, "\u0647\u0670"),
    (0xFCDA, "\u064A\u062C"), (0xFCDB, "\u064A\u062D"),
    (0xFCDC, "\u064A\u062E"), (0xFCDD, "\u064A\u0645"),
    (0xFCDE, "\u064A\u0647"), (0xFCDF, "\u0626\u0645"),
    (0xFCE0, "\u0626\u0647"), (0xFCE1, "\u0628\u0645"),
    (0xFCE2, "\u0628\u0647"), (0xFCE3, "\u062A\u0645"),
    (0xFCE4, "\u062A\u0647"), (0xFCE5, "\u062B\u0645"),
    (0xFCE6, "\u062B\u0647"), (0xFCE7, "\u0633\u0645"),
    (0xFCE8, "\u0633\u0647"), (0xFCE9, "\u0634\u0645"),
    (0xFCEA, "\u0634\u0647"), (0xFCEB, "\u0643\u0644"),
    (0xFCEC, "\u0643\u0645"), (0xFCED, "\u0644\u0645"),
    (0xFCEE, "\u0646\u0645"), (0xFCEF, "\u0646\u0647"),
    (0xFCF0, "\u064A\u0645"), (0xFCF1, "\u064A\u0647"),
    (0xFCF2, "\u0640\u064E\u0651"), (0xFCF3, "\u0640\u064F\u0651"),
    (0xFCF4, "\u0640\u0650\u0651"), (0xFCF5, "\u0637\u0649"),
    (0xFCF6, "\u0637\u064A"), (0xFCF7, "\u0639\u0649"),
    (0xFCF8, "\u0639\u064A"), (0xFCF9, "\u063A\u0649"),
    (0xFCFA, "\u063A\u064A"), (0xFCFB, "\u0633\u0649"),
    (0xFCFC, "\u0633\u064A"), (0xFCFD, "\u0634\u0649"),
    (0xFCFE, "\u0634\u064A"), (0xFCFF, "\u062D\u0649"),
    (0xFD00, "\u062D\u064A"), (0xFD01, "\u062C\u0649"),
    (0xFD02, "\u062C\u064A"), (0xFD03, "\u062E\u0649"),
    (0xFD04, "\u062E\u064A"), (0xFD05, "\u0635\u0649"),
    (0xFD06, "\u0635\u064A"), (0xFD07, "\u0636\u0649"),
    (0xFD08, "\u0636\u064A"), (0xFD09, "\u0634\u062C"),
    (0xFD0A, "\u0634\u062D"), (0xFD0B, "\u0634\u062E"),
    (0xFD0C, "\u0634\u0645"), (0xFD0D, "\u0634\u0631"),
    (0xFD0E, "\u0633\u0631"), (0xFD0F, "\u0635\u0631"),
    (0xFD10, "\u0636\u0631"), (0xFD11, "\u0637\u0649"),
    (0xFD12, "\u0637\u064A"), (0xFD13, "\u0639\u0649"),
    (0xFD14, "\u0639\u064A"), (0xFD15, "\u063A\u0649"),
    (0xFD16, "\u063A\u064A"), (0xFD17, "\u0633\u0649"),
    (0xFD18, "\u0633\u064A"), (0xFD19, "\u0634\u0649"),
    (0xFD1A, "\u0634\u064A"), (0xFD1B, "\u062D\u0649"),
    (0xFD1C, "\u062D\u064A"), (0xFD1D, "\u062C\u0649"),
    (0xFD1E, "\u062C\u064A"), (0xFD1F, "\u062E\u0649"),
    (0xFD20, "\u062E\u064A"), (0xFD21, "\u0635\u0649"),
    (0xFD22, "\u0635\u064A"), (0xFD23, "\u0636\u0649"),
    (0xFD24, "\u0636\u064A"), (0xFD25, "\u0634\u062C"),
    (0xFD26, "\u0634\u062D"), (0xFD27, "\u0634\u062E"),
    (0xFD28, "\u0634\u0645"), (0xFD29, "\u0634\u0631"),
    (0xFD2A, "\u0633\u0631"), (0xFD2B, "\u0635\u0631"),
    (0xFD2C, "\u0636\u0631"), (0xFD2D, "\u0634\u062C"),
    (0xFD2E, "\u0634\u062D"), (0xFD2F, "\u0634\u062E"),
    (0xFD30, "\u0634\u0645"), (0xFD31, "\u0633\u0647"),
    (0xFD32, "\u0634\u0647"), (0xFD33, "\u0637\u0645"),
    (0xFD34, "\u0633\u062C"), (0xFD35, "\u0633\u062D"),
    (0xFD36, "\u0633\u062E"), (0xFD37, "\u0634\u062C"),
    (0xFD38, "\u0634\u062D"), (0xFD39, "\u0634\u062E"),
    (0xFD3A, "\u0637\u0645"), (0xFD3B, "\u0638\u0645"),
    (0xFD3C, "\u0627\u064B"), (0xFD3D, "\u0627\u064B"),
    (0xFD50, "\u062A\u062C\u0645"), (0xFD51, "\u062A\u062D\u062C"),
    (0xFD52, "\u062A\u062D\u062C"), (0xFD53, "\u062A\u062D\u0645"),
    (0xFD54, "\u062A\u062E\u0645"), (0xFD55, "\u062A\u0645\u062C"),
    (0xFD56, "\u062A\u0645\u062D"), (0xFD57, "\u062A\u0645\u062E"),
    (0xFD58, "\u062C\u0645\u062D"), (0xFD59, "\u062C\u0645\u062D"),
    (0xFD5A, "\u062D\u0645\u064A"), (0xFD5B, "\u062D\u0645\u0649"),
    (0xFD5C, "\u0633\u062D\u062C"), (0xFD5D, "\u0633\u062C\u062D"),
    (0xFD5E, "\u0633\u062C\u0649"), (0xFD5F, "\u0633\u0645\u062D"),
    (0xFD60, "\u0633\u0645\u062D"), (0xFD61, "\u0633\u0645\u062C"),
    (0xFD62, "\u0633\u0645\u0645"), (0xFD63, "\u0633\u0645\u0645"),
    (0xFD64, "\u0635\u062D\u062D"), (0xFD65, "\u0635\u062D\u062D"),
    (0xFD66, "\u0635\u0645\u0645"), (0xFD67, "\u0634\u062D\u0645"),
    (0xFD68, "\u0634\u062D\u0645"), (0xFD69, "\u0634\u062C\u064A"),
    (0xFD6A, "\u0634\u0645\u062E"), (0xFD6B, "\u0634\u0645\u062E"),
    (0xFD6C, "\u0634\u0645\u0645"), (0xFD6D, "\u0634\u0645\u0645"),
    (0xFD6E, "\u0636\u062D\u0649"), (0xFD6F, "\u0636\u062E\u0645"),
    (0xFD70, "\u0636\u062E\u0645"), (0xFD71, "\u0637\u0645\u062D"),
    (0xFD72, "\u0637\u0645\u062D"), (0xFD73, "\u0637\u0645\u0645"),
    (0xFD74, "\u0637\u0645\u064A"), (0xFD75, "\u0639\u062C\u0645"),
    (0xFD76, "\u0639\u0645\u0645"), (0xFD77, "\u0639\u0645\u0645"),
    (0xFD78, "\u0639\u0645\u0649"), (0xFD79, "\u063A\u0645\u0645"),
    (0xFD7A, "\u063A\u0645\u064A"), (0xFD7B, "\u063A\u0645\u0649"),
    (0xFD7C, "\u0641\u062E\u0645"), (0xFD7D, "\u0641\u062E\u0645"),
    (0xFD7E, "\u0642\u0645\u062D"), (0xFD7F, "\u0642\u0645\u0645"),
    (0xFD80, "\u0644\u062D\u0645"), (0xFD81, "\u0644\u062D\u064A"),
    (0xFD82, "\u0644\u062D\u0649"), (0xFD83, "\u0644\u062C\u062C"),
    (0xFD84, "\u0644\u062C\u062C"), (0xFD85, "\u0644\u062E\u0645"),
    (0xFD86, "\u0644\u062E\u0645"), (0xFD87, "\u0644\u0645\u062D"),
    (0xFD88, "\u0644\u0645\u062D"), (0xFD89, "\u0645\u062D\u062C"),
    (0xFD8A, "\u0645\u062D\u0645"), (0xFD8B, "\u0645\u062D\u064A"),
    (0xFD8C, "\u0645\u062C\u062D"), (0xFD8D, "\u0645\u062C\u0645"),
    (0xFD8E, "\u0645\u062E\u062C"), (0xFD8F, "\u0645\u062E\u0645"),
    (0xFD92, "\u0645\u062C\u062E"), (0xFD93, "\u0647\u0645\u062C"),
    (0xFD94, "\u0647\u0645\u0645"), (0xFD95, "\u0646\u062D\u0645"),
    (0xFD96, "\u0646\u062D\u0649"), (0xFD97, "\u0646\u062C\u0645"),
    (0xFD98, "\u0646\u062C\u0645"), (0xFD99, "\u0646\u062C\u0649"),
    (0xFD9A, "\u0646\u0645\u064A"), (0xFD9B, "\u0646\u0645\u0649"),
    (0xFD9C, "\u064A\u0645\u0645"), (0xFD9D, "\u064A\u0645\u0645"),
    (0xFD9E, "\u0628\u062E\u064A"), (0xFD9F, "\u062A\u062C\u064A"),
    (0xFDA0, "\u062A\u062C\u0649"), (0xFDA1, "\u062A\u062E\u064A"),
    (0xFDA2, "\u062A\u062E\u0649"), (0xFDA3, "\u062A\u0645\u064A"),
    (0xFDA4, "\u062A\u0645\u0649"), (0xFDA5, "\u062C\u0645\u064A"),
    (0xFDA6, "\u062C\u062D\u0649"), (0xFDA7, "\u062C\u0645\u0649"),
    (0xFDA8, "\u0633\u062E\u0649"), (0xFDA9, "\u0635\u062D\u064A"),
    (0xFDAA, "\u0634\u062D\u064A"), (0xFDAB, "\u0636\u062D\u064A"),
    (0xFDAC, "\u0644\u062C\u064A"), (0xFDAD, "\u0644\u0645\u064A"),
    (0xFDAE, "\u064A\u062D\u064A"), (0xFDAF, "\u064A\u062C\u064A"),
    (0xFDB0, "\u064A\u0645\u064A"), (0xFDB1, "\u0645\u0645\u064A"),
    (0xFDB2, "\u0642\u0645\u064A"), (0xFDB3, "\u0646\u062D\u064A"),
    (0xFDB4, "\u0642\u0645\u062D"), (0xFDB5, "\u0644\u062D\u0645"),
    (0xFDB6, "\u0639\u0645\u064A"), (0xFDB7, "\u0643\u0645\u064A"),
    (0xFDB8, "\u0646\u062C\u062D"), (0xFDB9, "\u0645\u062E\u064A"),
    (0xFDBA, "\u0644\u062C\u0645"), (0xFDBB, "\u0643\u0645\u0645"),
    (0xFDBC, "\u0644\u062C\u0645"), (0xFDBD, "\u0646\u062C\u062D"),
    (0xFDBE, "\u062C\u062D\u064A"), (0xFDBF, "\u062D\u062C\u064A"),
    (0xFDC0, "\u0645\u062C\u064A"), (0xFDC1, "\u0641\u0645\u064A"),
    (0xFDC2, "\u0628\u062D\u064A"), (0xFDC3, "\u0643\u0645\u0645"),
    (0xFDC4, "\u0639\u062C\u0645"), (0xFDC5, "\u0635\u0645\u0645"),
    (0xFDC6, "\u0633\u062E\u064A"), (0xFDC7, "\u0646\u062C\u064A"),
    (0xFDF0, "\u0635\u0644\u06D2"), (0xFDF1, "\u0642\u0644\u06D2"),
    (0xFDF2, "\u0627\u0644\u0644\u0647"),
    (0xFDF3, "\u0627\u0643\u0628\u0631"),
    (0xFDF4, "\u0645\u062D\u0645\u062F"),
    (0xFDF5, "\u0635\u0644\u0639\u0645"),
    (0xFDF6, "\u0631\u0633\u0648\u0644"),
    (0xFDF7, "\u0639\u0644\u064A\u0647"),
    (0xFDF8, "\u0648\u0633\u0644\u0645"),
    (0xFDF9, "\u0635\u0644\u0649"),
    (0xFDFA, "\u0635\u0644\u0649 \u0627\u0644\u0644\u0647 \u0639\u0644\u064A\u0647 \u0648\u0633\u0644\u0645"),
    (0xFDFB, "\u062C\u0644 \u062C\u0644\u0627\u0644\u0647"),
    (0xFDFC, "\u0631\u06CC\u0627\u0644"), (0xFE49, " \u0305"),
    (0xFE4A, " \u0305"), (0xFE4B, " \u0305"), (0xFE4C, " \u0305"),
    (0xFE70, " \u064B"), (0xFE71, "\u0640\u064B"), (0xFE72, " \u064C"),
    (0xFE74, " \u064D"), (0xFE76, " \u064E"), (0xFE77, "\u0640\u064E"),
    (0xFE78, " \u064F"), (0xFE79, "\u0640\u064F"), (0xFE7A, " \u0650"),
    (0xFE7B, "\u0640\u0650"), (0xFE7C, " \u0651"),
    (0xFE7D, "\u0640\u0651"), (0xFE7E, " \u0652"),
    (0xFE7F, "\u0640\u0652"), (0xFEF5, "\u0644\u0622"),
    (0xFEF6, "\u0644\u0622"), (0xFEF7, "\u0644\u0623"),
    (0xFEF8, "\u0644\u0623"), (0xFEF9, "\u0644\u0625"),
    (0xFEFA, "\u0644\u0625"), (0xFEFB, "\u0644\u0627"),
    (0xFEFC, "\u0644\u0627"), (0xFFE3, " \u0304"), (0x1D15E, "𝅗𝅥"),
    (0x1D15F, "𝅘𝅥"), (0x1D160, "𝅘𝅥𝅮"), (0x1D161, "𝅘𝅥𝅯"),
    (0x1D162, "𝅘𝅥𝅰"), (0x1D163, "𝅘𝅥𝅱"), (0x1D164, "𝅘𝅥𝅲"),
    (0x1D1BB, "𝆹𝅥"), (0x1D1BC, "𝆺𝅥"), (0x1D1BD, "𝆹𝅥𝅮"),
    (0x1D1BE, "𝆺𝅥𝅮"), (0x1D1BF, "𝆹𝅥𝅯"), (0x1D1C0, "𝆺𝅥𝅯"),
    (0x1F101, "0,"), (0x1F102, "1,"), (0x1F103, "2,"), (0x1F104, "3,"),
    (0x1F105, "4,"), (0x1F106, "5,"), (0x1F107, "6,"), (0x1F108, "7,"),
    (0x1F109, "8,"), (0x1F10A, "9,"), (0x1F110, "(a)"),
    (0x1F111, "(b)"), (0x1F112, "(c)"), (0x1F113, "(d)"),
    (0x1F114, "(e)"), (0x1F115, "(f)"), (0x1F116, "(g)"),
    (0x1F117, "(h)"), (0x1F118, "(i)"), (0x1F119, "(j)"),
    (0x1F11A, "(k)"), (0x1F11B, "(l)"), (0x1F11C, "(m)"),
    (0x1F11D, "(n)"), (0x1F11E, "(o)"), (0x1F11F, "(p)"),
    (0x1F120, "(q)"), (0x1F121, "(r)"), (0x1F122, "(s)"),
    (0x1F123, "(t)"), (0x1F124, "(u)"), (0x1F125, "(v)"),
    (0x1F126, "(w)"), (0x1F127, "(x)"), (0x1F128, "(y)"),
    (0x1F129, "(z)"), (0x1F12A, "〔s〕"), (0x1F12D, "cd"),
    (0x1F12E, "wz"), (0x1F14A, "hv"), (0x1F14B, "mv"), (0x1F14C, "sd"),
    (0x1F14D, "ss"), (0x1F14E, "ppv"), (0x1F14F, "wc"), (0x1F16A, "mc"),
    (0x1F16B, "md"), (0x1F16C, "mr"), (0x1F190, "dj"), (0x1F200, "ほか"),
    (0x1F201, "ココ"), (0x1F240, "〔本〕"), (0x1F241, "〔三〕"),
    (0x1F242, "〔二〕"), (0x1F243, "〔安〕"), (0x1F244, "〔点〕"),
    (0x1F245, "〔打〕"), (0x1F246, "〔盗〕"), (0x1F247, "〔勝〕"),
    (0x1F248, "〔敗〕")]

------------------------------------------------------------
-- Folding
------------------------------------------------------------

/- The image of a character in a row of `images`. -/
def imageIn
    (c : Char)
    (row : Nat × String) : Option Char :=
  if row.1 ≤ c.toNat then
    row.2.toList[c.toNat - row.1]?
  else
    none

/- The two characters that only tell letters how to join. -/
def isJoiner
    (c : Char) : Bool :=
  c = '\u200C' || c = '\u200D'

/-
  What stands for a character beyond ASCII in a folded name,
  if a name may have it.
-/
def foldWide
    (c : Char) : Option (List Char) :=
  if Text.inRanges droppedRanges c then
    some []
  else
    match expansions.find? (·.1 = c.toNat), images.findSome? (imageIn c) with
    | some row, _ => some row.2.toList
    | none, some image => some [image]
    | none, none =>
      if isJoiner c ||
          (Text.isGraphic c && !Text.inRanges refusedRanges c) then
        some [c]
      else
        none

/-
  What stands for a character in a folded name.  All of ASCII
  is kept here, in lower case.
-/
def fold
    (c : Char) : Option (List Char) :=
  if c.toNat < 0x80 then some [c.toLower] else foldWide c

end Domain

end QuestionQuery
